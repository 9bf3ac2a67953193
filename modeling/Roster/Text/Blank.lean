/-!
# White space

A character is blank when it has the Unicode property White_Space. Tokens made of blanks count as
absent, and printed table lines lose the blanks at their end.
-/

namespace Roster.Text

/-- The characters with the property White_Space. -/
def isBlank (c : Char) : Bool :=
  let n := c.toNat
  (0x09 ≤ n && n ≤ 0x0D) || n == 0x20 || n == 0x85 || n == 0xA0 || n == 0x1680
    || (0x2000 ≤ n && n ≤ 0x200A) || n == 0x2028 || n == 0x2029 || n == 0x202F || n == 0x205F
    || n == 0x3000

/-- A text with nothing but blanks in it, the empty text included. -/
def allBlank (s : String) : Bool := s.toList.all isBlank

/-- A list without the longest run of `p` at its end. -/
def dropTail {α : Type} (p : α → Bool) : List α → List α
  | [] => []
  | a :: rest =>
    match dropTail p rest with
    | [] => if p a then [] else [a]
    | kept => a :: kept

/-- A line without the blanks at its end. -/
def trimEnd (line : List Char) : List Char := dropTail isBlank line

theorem dropTail_eq_nil_iff {α : Type} {p : α → Bool} {xs : List α} :
    dropTail p xs = [] ↔ ∀ x ∈ xs, p x := by
  induction xs with
  | nil => simp [dropTail]
  | cons a rest ih =>
    unfold dropTail
    split
    · next h => by_cases ha : p a <;> simp_all
    · next h => simp_all

end Roster.Text
