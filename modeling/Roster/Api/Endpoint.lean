import Roster.Url.Parser
import Roster.Url.Form
import Roster.Text.Blank
/-!
# Endpoints

A list is asked for page by page, possibly filtered. Its address is a base address with the path of
the list behind it, and the page, its size and the filter as query parameters behind those that the
base has.
-/

namespace Roster

/-- What is asked of a list. -/
structure ListParams where
  page : Nat
  size : Nat
  search : Option String
  deriving Repr, DecidableEq

namespace ListParams

/-- Counts on the wire end here. -/
def maxCount : Nat := Nat.pow 2 32 - 1

def firstPage : Nat := 1

def defaultSize : Nat := 10

/-- The first page, of the usual size. -/
def default : ListParams := ⟨firstPage, defaultSize, none⟩

/-- The query parameters, in their order. -/
def pairs (p : ListParams) : List (List Char × List Char) :=
  [("page".toList, Nat.toDigits 10 p.page), ("size".toList, Nat.toDigits 10 p.size)] ++
    match p.search with
    | some s => [("search".toList, s.toList)]
    | none => []

end ListParams

namespace Endpoint

def instancesPath : String := "/api/kafkas_mgmt/v1/kafkas"

def clustersPath : String := "/api/clusters_mgmt/v1/clusters"

/-- A base without the slashes at its end. -/
def trimBase (base : String) : List Char := Text.dropTail (· == '/') base.toList

/-- A URL with more query parameters. -/
def withPairs (u : Url) (pairs : List (List Char × List Char)) : Url :=
  { u with query := some (Url.Form.appendAll (u.query.getD []) pairs) }

/-- The address of a list. -/
def url (base path : String) (params : ListParams) : Except Url.Invalid Url := do
  let u ← Url.parse (trimBase base ++ path.toList)
  .ok (withPairs u params.pairs)

end Endpoint

end Roster
