import Roster.Yaml.Scalar
import Roster.Json.Printer
/-!
# Writing YAML

A value as a block document: two blanks for each level, lists directly below the key they belong to,
empty containers in brackets. Keys that do not fit on a line are written behind a question mark,
their values behind a colon on a line of their own.
-/

namespace Roster.Yaml

open Json (openBrace closeBrace)

/-- Where a value is written: alone, behind the colon of a short key, or behind a mark that has
taken the first two columns of its level. -/
inductive Spot where
  | top
  | afterKey
  | afterMark
  deriving DecidableEq

/-- What comes before the first entry of a container: behind a key it starts a line, behind a mark
it stays where it is. -/
def firstStart (spot : Spot) (indent : Nat) : List Char :=
  match spot with
  | .afterKey => '\n' :: blanks indent
  | _ => []

/-- The level at which a container's entries are written. -/
def Spot.level (spot : Spot) (indent : Nat) : Nat :=
  match spot with
  | .top => 0
  | _ => indent + 2

/-- A blank between a colon and what follows it. -/
def Spot.gap (spot : Spot) : List Char :=
  match spot with
  | .afterKey => [' ']
  | _ => []

/-- A word and the end of its line. -/
def word (spot : Spot) (w : List Char) : List Char := spot.gap ++ w ++ ['\n']

def text (spot : Spot) (indent : Nat) (s : List Char) : List Char :=
  spot.gap ++ scalar (indent + 2) s ++ if endsLine s then [] else ['\n']

def number : Json.Number → List Char
  | .int i => (toString i).toList
  | .real x => Decimal.Layout.yaml.float x

/-- A key and the mark behind it. -/
def key (level : Nat) (name : List Char) : List Char :=
  if isSimpleKey name then scalar (level + 2) name ++ [':']
  else '?' :: ' ' :: text .afterMark level name ++ blanks level ++ [':', ' ']

mutual

/-- A value and the end of its last line; `indent` is the level of the container it is in. -/
def block (spot : Spot) (indent : Nat) : Json → List Char
  | .null => word spot "null".toList
  | .bool b => word spot (Json.printBool b)
  | .number n => word spot (number n)
  | .string s => text spot indent s.toList
  | .array [] => word spot ['[', ']']
  | .array (v :: items) =>
    let level := if spot = .afterKey then indent else spot.level indent
    firstStart spot level ++
      '-' :: ' ' :: block .afterMark level v ++ elements level items
  | .object [] => word spot [openBrace, closeBrace]
  | .object ((name, v) :: members) =>
    let level := spot.level indent
    firstStart spot level ++ key level name.toList ++
      (if isSimpleKey name.toList then block .afterKey level v else block .afterMark level v) ++
      entries level members

/-- The elements of a list behind the first. -/
def elements (level : Nat) : List Json → List Char
  | [] => []
  | v :: rest => blanks level ++ '-' :: ' ' :: block .afterMark level v ++ elements level rest

/-- The members of an object behind the first. -/
def entries (level : Nat) : List (String × Json) → List Char
  | [] => []
  | (name, v) :: rest =>
    blanks level ++ key level name.toList ++
      (if isSimpleKey name.toList then block .afterKey level v else block .afterMark level v) ++
      entries level rest

end

/-- A document. -/
def document (v : Json) : String := String.ofList (block .top 0 v)

end Roster.Yaml
