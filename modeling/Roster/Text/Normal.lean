import Std.Data.HashMap
import Roster.Text.CodeTable
import Roster.Text.Normal.Table
/-!
# Composed text

One form for texts that look alike: every character is taken apart, marks are put in the order of
their combining classes, and what can be composed is composed again (Unicode's form C).
-/

namespace Roster.Text.Normal

def composites : CodeTable := CodeTable.ofText compositeTable

def singletons : CodeTable := CodeTable.ofText singletonTable

def classes : CodeTable := CodeTable.ofText classTable

/-- What two characters compose to. -/
def compositions : Std.HashMap (Nat × Nat) Char :=
  composites.foldl (fun m e => match e.values with
    | [a, b] => m.insert (a, b) (Char.ofNat e.first)
    | _ => m) ∅

/-- The combining class; zero for characters that start a cluster. -/
def combiningClass (c : Char) : Nat :=
  match classes.find? c with
  | some e => match e.mark, e.values with
    | some _, [n] => n
    | _, _ => 1
  | none => 0

/-! Hangul syllables are computed: a leading consonant, a vowel and possibly a trailing consonant.
-/

def leads : Nat := 0x1100
def vowels : Nat := 0x1161
def trails : Nat := 0x11A7
def syllables : Nat := 0xAC00

def splitSyllable (c : Char) : List Char :=
  let n := c.toNat - syllables
  let start := [Char.ofNat (leads + n / 588), Char.ofNat (vowels + n % 588 / 28)]
  if n % 28 = 0 then start else start ++ [Char.ofNat (trails + n % 28)]

def joinSyllable? (a b : Char) : Option Char :=
  let a := a.toNat
  let b := b.toNat
  if leads ≤ a ∧ a < leads + 19 ∧ vowels ≤ b ∧ b < vowels + 21 then
    some (Char.ofNat (syllables + ((a - leads) * 21 + (b - vowels)) * 28))
  else if syllables ≤ a ∧ a < syllables + 11172 ∧ (a - syllables) % 28 = 0
      ∧ trails < b ∧ b < trails + 28 then
    some (Char.ofNat (a + (b - trails)))
  else none

/-- What is said of the parts of a character, if it has any. -/
def parts? (c : Char) : Option CodeEntry :=
  (composites.find? c).orElse fun _ => singletons.find? c

/-- A character taken apart; a part may itself have parts, at most `fuel` levels deep. `parts?` says
which, so that none of this depends on what the tables hold. -/
def expand (parts? : Char → Option CodeEntry) : Nat → Char → List Char
  | 0, c => [c]
  | fuel + 1, c =>
    if syllables ≤ c.toNat ∧ c.toNat < syllables + 11172 then splitSyllable c
    else match parts? c with
      | some e => e.values.flatMap fun n => expand parts? fuel (Char.ofNat n)
      | none => [c]

/-- Puts a character behind a text given backwards, before the marks of higher class. -/
def place (c : Char) : List Char → List Char
  | [] => [c]
  | d :: before =>
    if 0 < combiningClass c ∧ combiningClass c < combiningClass d then d :: place c before
    else c :: d :: before

/-- The text taken apart, marks in order. -/
def decomposed (s : List Char) : List Char :=
  ((s.flatMap (expand parts? 8)).foldl (fun before c => place c before) []).reverse

def compose? (a b : Char) : Option Char :=
  (joinSyllable? a b).orElse fun _ => compositions[(a.toNat, b.toNat)]?

/-- Composes marks with the character that they stand on. `marks` are those left over so far, last
one first; a mark is only taken when all of them have a lower class. -/
def recompose (start : Option Char) (marks : List Char) : List Char → List Char
  | [] => start.toList ++ marks.reverse
  | c :: rest =>
    let free := match marks with
      | [] => true
      | m :: _ => combiningClass m < combiningClass c
    match start.bind fun s => if free then compose? s c else none with
    | some s => recompose (some s) marks rest
    | none =>
      if combiningClass c = 0 then start.toList ++ marks.reverse ++ recompose (some c) [] rest
      else recompose start (c :: marks) rest

/-- The composed form of a text. -/
def compose (s : List Char) : List Char := recompose none [] (decomposed s)

end Roster.Text.Normal
