/-!
# Sets of characters, given as ranges

A property of characters is written as code points and ranges in hexadecimal, separated by blanks or
line feeds and in ascending order: `AD 300-36F`. Membership is a binary search.
-/

namespace Roster.Text

/-- Ascending ranges of code points, both ends included. -/
abbrev Ranges := Array (Nat × Nat)

namespace Ranges

/-- The value of a hexadecimal digit. -/
def hexValue? (c : Char) : Option Nat :=
  if '0' ≤ c ∧ c ≤ '9' then some (c.toNat - 48)
  else if 'A' ≤ c ∧ c ≤ 'F' then some (c.toNat - 55)
  else if 'a' ≤ c ∧ c ≤ 'f' then some (c.toNat - 87)
  else none

/-- Reads ranges: `low` is the code point before a dash, `n` the one being read. -/
def read (low : Option Nat) (n : Option Nat) (out : Ranges) : List Char → Ranges
  | [] => match n with
    | some n => out.push (low.getD n, n)
    | none => out
  | c :: rest =>
    if c = '-' then read n none out rest
    else match hexValue? c with
      | some d => read low (some (n.getD 0 * 16 + d)) out rest
      | none => match n with
        | some n => read none none (out.push (low.getD n, n)) rest
        | none => read none none out rest

def ofText (s : String) : Ranges := read none none #[] s.toList

/-- Looks for `n` among the ranges from `low` up to, not including, `high`. -/
def search (r : Ranges) (n : Nat) : Nat → Nat → Nat → Bool
  | 0, _, _ => false
  | fuel + 1, low, high =>
    if low < high then
      let middle := (low + high) / 2
      match r[middle]? with
      | some (first, last) =>
        if n < first then r.search n fuel low middle
        else if last < n then r.search n fuel (middle + 1) high
        else true
      | none => false
    else false

def contains (r : Ranges) (c : Char) : Bool := r.search c.toNat (r.size + 1) 0 r.size

end Ranges

end Roster.Text
