import Roster.Text.Split
/-!
# Tables of code points

A table is written as entries in ascending order, separated by blanks and line feeds. An entry is a
code point or a range, then possibly a mark and code points that belong to it: `41-5A=61`, `AD!`,
`130=69.307`. Numbers are hexadecimal.
-/

namespace Roster.Text

/-- What is said of one range of code points, both ends included. -/
structure CodeEntry where
  first : Nat
  last : Nat
  /-- The character behind the range, if there is one. -/
  mark : Option Char
  values : List Nat

abbrev CodeTable := Array CodeEntry

namespace CodeTable

def hexDigit? (c : Char) : Option Nat :=
  if '0' ≤ c ∧ c ≤ '9' then some (c.toNat - 48)
  else if 'A' ≤ c ∧ c ≤ 'F' then some (c.toNat - 55)
  else none

def number (digits : List Char) : Nat :=
  digits.foldl (fun n c => n * 16 + (hexDigit? c).getD 0) 0

def readEntry (word : List Char) : CodeEntry :=
  let isKey (c : Char) : Bool := (hexDigit? c).isSome || c == '-'
  let (low, high) := match splitOn '-' (word.takeWhile isKey) with
    | [low, high] => (number low, number high)
    | low :: _ => (number low, number low)
    | [] => (0, 0)
  match word.dropWhile isKey with
  | [] => ⟨low, high, none, []⟩
  | [mark] => ⟨low, high, some mark, []⟩
  | mark :: values => ⟨low, high, some mark, (splitOn '.' values).map number⟩

def isSpace (c : Char) : Bool := c == ' ' || c == '\n'

/-- The entries of a text. -/
def words (s : String) : List (List Char) :=
  (splitOn ' ' (s.toList.map fun c => if isSpace c then ' ' else c)).filter (!·.isEmpty)

def ofText (s : String) : CodeTable := ((words s).map readEntry).toArray

/-- Looks among the entries from `low` up to, not including, `high`. -/
def search (t : CodeTable) (n : Nat) : Nat → Nat → Nat → Option CodeEntry
  | 0, _, _ => none
  | fuel + 1, low, high =>
    if low < high then
      let middle := (low + high) / 2
      match t[middle]? with
      | some e =>
        if n < e.first then t.search n fuel low middle
        else if e.last < n then t.search n fuel (middle + 1) high
        else some e
      | none => none
    else none

/-- The entry whose range holds a character. -/
def find? (t : CodeTable) (c : Char) : Option CodeEntry := t.search c.toNat (t.size + 1) 0 t.size

end CodeTable

end Roster.Text
