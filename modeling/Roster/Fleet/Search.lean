/-!
# The search filter

A term is put into the filter as it is, so only letters, digits, `-`, `_` and `%` are allowed in it.
The filter asks for the term in each of five fields.
-/

namespace Roster.Search

/-- The characters of a term: ASCII letters and digits, `-`, `_` and the wildcard `%`. -/
def allowed (c : Char) : Bool := c.isAlphanum || c == '-' || c == '_' || c == '%'

def valid (term : String) : Bool := term.toList.all allowed

/-- The fields searched, in the order of their clauses. -/
def fields : List String := ["name", "owner", "cloud_provider", "region", "status"]

def clause (term field : String) : String := field ++ " like %" ++ term ++ "%"

/-- The filter for a term, none for the empty one. -/
def query (term : String) : Option String :=
  if term.isEmpty then none else some (" or ".intercalate (fields.map (clause term)))

/-- What is said of a term with a character that is not allowed. -/
def refusal (term : String) : String :=
  "Invalid search term \"" ++ term
    ++ "\": only letters, numbers, '-', '_' and '%' are allowed"

end Roster.Search
