/-!
# Words of a command line

A word that starts with a hyphen and is not just that is an option: by name behind two hyphens, with
a value behind an equals sign if there is one, or by its letter behind one hyphen, with the rest of
the word.
-/

namespace Roster

inductive Word where
  | named (name : List Char) (value : Option (List Char))
  | lettered (letter : Char) (rest : List Char)
  | plain (text : List Char)
  deriving Repr, DecidableEq

namespace Word

/-- Everything before the first equals sign, and everything behind it if there is one. -/
def splitValue (cs : List Char) : List Char × Option (List Char) :=
  (cs.takeWhile (· ≠ '='), (cs.dropWhile (· ≠ '=')).tail?)

def ofText (text : String) : Word :=
  match text.toList with
  | '-' :: '-' :: cs =>
    let (name, value) := splitValue cs
    named name value
  | '-' :: letter :: rest => lettered letter rest
  | cs => plain cs

/-- The value in the rest of a word behind a letter, where an equals sign may stand in front of it.
-/
def attached? : List Char → Option (List Char)
  | [] => none
  | '=' :: value => some value
  | value => some value

end Word

end Roster
