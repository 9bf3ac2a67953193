import Roster.Json.Fault
import Roster.Json.Printer
import Roster.Yaml.Printer
/-!
# Output formats

A list is shown as a table, or the document that was received is shown as JSON or YAML.
-/

namespace Roster

inductive Format where
  | table
  | json
  | yaml
  deriving Repr, DecidableEq

namespace Format

/-- The names of formats; the first name of each is the usual one. -/
def names : List (String × Format) :=
  [("table", table), ("json", json), ("yaml", yaml), ("yml", yaml)]

def name : Format → String
  | table => "table"
  | json => "json"
  | yaml => "yaml"

def lower (s : String) : String := String.ofList (s.toList.map Char.toLower)

/-- The format of a name, with capital letters of ASCII allowed or not. -/
def ofName? (s : String) (anyCase : Bool) : Option Format :=
  names.lookup (if anyCase then lower s else s)

/-- How a document is shown; one that was asked for as a table is shown as JSON. -/
def document : Format → Json → String
  | yaml, v => Yaml.document v
  | _, v => v.toLines ++ "\n"

theorem document_json (v : Json) : json.document v = v.toLines ++ "\n" := rfl

theorem document_yaml (v : Json) : yaml.document v = Yaml.document v := rfl

end Format

/-! ### Values that cannot be shown -/

/-- A value refused to be shown, and said why. -/
inductive OutputError where
  | json (reason : String)
  | yaml (reason : String)
  deriving Repr, DecidableEq

namespace OutputError

/-- The text before the last occurrence of another, and the text after it. -/
def splitAtLast? (sep : List Char) : List Char → Option (List Char × List Char)
  | [] => none
  | c :: rest =>
    match splitAtLast? sep rest with
    | some (before, after) => some (c :: before, after)
    | none => if sep.isPrefixOf (c :: rest) then some ([], (c :: rest).drop sep.length) else none

/-- A decimal number of a place, which fits in 64 bits. -/
def number? (digits : List Char) : Option Nat :=
  let n := digits.foldl (fun n c => n * 10 + (c.toNat - 48)) 0
  if digits.isEmpty ∨ !digits.all Char.isDigit ∨ Nat.pow 2 64 ≤ n then none else some n

/-- The place at the end of a reason, and the reason without it. -/
def splitPlace? (reason : List Char) : Option (List Char × Json.Place) := do
  let (before, place) ← splitAtLast? " at line ".toList reason
  let line := place.takeWhile Char.isDigit
  let rest := place.dropWhile Char.isDigit
  if " column ".toList.isPrefixOf rest then
    some (before, ⟨← number? line, ← number? (rest.drop " column ".length)⟩)
  else none

/-- The reason with the place at its end, if it has one, in decimal; line zero is no place. -/
def withPlace (reason : String) : String :=
  match splitPlace? reason.toList with
  | some (before, place) =>
    String.ofList before ++ if place.line = 0 then "" else place.describe
  | none => reason

def message : OutputError → String
  | json reason => withPlace reason
  | yaml reason => "unable to render yaml: " ++ reason

/-- The error of a value that gives a reason. -/
def ofReason : Format → String → OutputError
  | .yaml, reason => yaml reason
  | _, reason => json reason

end OutputError

end Roster
