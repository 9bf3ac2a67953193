import Roster.Proofs.Yaml.Scalar
import Roster.Yaml.Printer
/-!
# What stands at a place of a document

A value deep in a document is written in one piece, and what is written in front of it and behind
it does not depend on it. So two documents that differ in one value are told apart if that value is.
What is written for a string is never what is written for null, a boolean or an integer of 64 bits,
and different strings on one line are written differently.
-/

namespace Roster.Yaml

open Json (IsWord printNumber_ofNat printNumber_neg int_eq_ofNat_or_neg)

/-- A place in a document: what is around a value that may stand there. -/
inductive Place where
  | here
  | element (before : List Json) (inside : Place) (after : List Json)
  | member (before : List (String × Json)) (name : String) (inside : Place)
      (after : List (String × Json))

/-- The document with a value at a place. -/
def Place.fill : Place → Json → Json
  | here, v => v
  | element before inside after, v => .array (before ++ inside.fill v :: after)
  | member before name inside after, v => .object (before ++ (name, inside.fill v) :: after)

/-- Null, a boolean or an integer of 64 bits. -/
inductive Bare : Json → Prop
  | null : Bare .null
  | bool (b : Bool) : Bare (.bool b)
  | int {i : Int} (hword : IsWord i) : Bare (.number (.int i))

/-! ### Around a value -/

theorem elements_append (level : Nat) (before : List Json) (v : Json) (after : List Json) :
    elements level (before ++ v :: after) = elements level before ++ (blanks level ++
      ['-', ' ']) ++ block .afterMark level v ++ elements level after := by
  induction before with
  | nil => simp [elements]
  | cons w rest ih => simp [elements, ih]

/-- Where a value stands behind its key. -/
def valueSpot (name : String) : Spot := if isSimpleKey name.toList then .afterKey else .afterMark

theorem block_valueSpot (level : Nat) (name : String) (v : Json) :
    (if isSimpleKey name.toList then block .afterKey level v else block .afterMark level v) =
      block (valueSpot name) level v := by
  rw [valueSpot, apply_ite (block · level v)]

theorem entries_append (level : Nat) (before : List (String × Json)) (name : String) (v : Json)
    (after : List (String × Json)) :
    entries level (before ++ (name, v) :: after) = entries level before ++ (blanks level ++
      key level name.toList) ++ block (valueSpot name) level v ++ entries level after := by
  induction before with
  | nil => simp [entries, block_valueSpot]
  | cons m rest ih => simp [entries, ih]

/-- A value is written in one piece, with the same around it whatever it is. -/
theorem exists_block_fill (p : Place) (spot : Spot) (indent : Nat) :
    ∃ front inner level rest, ∀ v,
      block spot indent (p.fill v) = front ++ block inner level v ++ rest := by
  induction p generalizing spot indent with
  | here => exact ⟨[], spot, indent, [], by simp [Place.fill]⟩
  | element before inside after ih =>
      let level := if spot = .afterKey then indent else spot.level indent
      obtain ⟨front, inner, innerLevel, rest, h⟩ := ih .afterMark level
      cases before with
      | nil =>
        refine ⟨firstStart spot level ++ '-' :: ' ' :: front, inner, innerLevel,
          rest ++ elements level after, fun v => ?_⟩
        simp [Place.fill, block, h, level]
      | cons w ws =>
        refine ⟨firstStart spot level ++ '-' :: ' ' :: block .afterMark level w ++
          elements level ws ++ (blanks level ++ ['-', ' ']) ++ front, inner, innerLevel,
          rest ++ elements level after, fun v => ?_⟩
        simp [Place.fill, block, elements_append, h, level]
  | member before name inside after ih =>
      let level := spot.level indent
      obtain ⟨front, inner, innerLevel, rest, h⟩ := ih (valueSpot name) level
      cases before with
      | nil =>
        refine ⟨firstStart spot level ++ key level name.toList ++ front, inner, innerLevel,
          rest ++ entries level after, fun v => ?_⟩
        simp [Place.fill, block, block_valueSpot, h, level]
      | cons m ms =>
        refine ⟨firstStart spot level ++ key level m.1.toList ++
          block (valueSpot m.1) level m.2 ++ entries level ms ++ (blanks level ++
          key level name.toList) ++ front, inner, innerLevel,
          rest ++ entries level after, fun v => ?_⟩
        simp [Place.fill, block, entries_append, block_valueSpot, h, level]

/-- Documents that differ in one value are told apart if the value is, wherever it stands. -/
theorem document_fill_ne {v w : Json}
    (h : ∀ spot indent, block spot indent v ≠ block spot indent w) (p : Place) :
    document (p.fill v) ≠ document (p.fill w) := by
  obtain ⟨front, inner, level, rest, hfill⟩ := exists_block_fill p .top 0
  intro heq
  have hblock := String.ofList_injective heq
  rw [hfill, hfill] at hblock
  exact h inner level (List.append_cancel_left (List.append_cancel_right hblock))

/-! ### Strings and words -/

theorem isIndicator_digit : ∀ n < 58, 48 ≤ n → isIndicator (Char.ofNat n) = false := by decide

theorem starts_printNumber (i : Int) : Starts (Json.printNumber (.int i)) := by
  rcases int_eq_ofNat_or_neg i with ⟨n, rfl⟩ | ⟨n, hn, rfl⟩
  · rw [printNumber_ofNat]
    cases hdigits : Nat.toDigits 10 n with
    | nil => exact absurd hdigits Nat.toDigits_ne_nil
    | cons c rest =>
        obtain ⟨hlow, hhigh⟩ :=
          Json.toNat_of_isDigit (isDigit_of_mem (n := n) (c := c) (by simp [hdigits]))
        have hc := isIndicator_digit c.toNat (by omega) hlow
        rw [Char.ofNat_toNat] at hc
        exact ⟨c, rest, rfl, hc⟩
  · rw [printNumber_neg hn]
    exact ⟨'-', _, rfl, by decide⟩

/-- What is written for null, a boolean or an integer is a word that a string is quoted for. -/
theorem Bare.block_eq {v : Json} (h : Bare v) :
    ∃ w, isAmbiguous w = true ∧ Starts w ∧ ∀ spot indent, block spot indent v = word spot w := by
  cases h with
  | null => exact ⟨_, by decide, ⟨_, _, rfl, by decide⟩, fun _ _ => rfl⟩
  | bool b =>
      cases b with
      | true => exact ⟨_, by decide, ⟨_, _, rfl, by decide⟩, fun _ _ => rfl⟩
      | false => exact ⟨_, by decide, ⟨_, _, rfl, by decide⟩, fun _ _ => rfl⟩
  | @int i hword =>
      refine ⟨Json.printNumber (.int i), ?_, starts_printNumber i, fun _ _ => rfl⟩
      simp [isAmbiguous, isInteger_printNumber hword]

theorem block_string_ne_word {w : List Char} (hword : isAmbiguous w = true) (hstarts : Starts w)
    (spot : Spot) (indent : Nat) (s : String) :
    block spot indent (.string s) ≠ word spot w := by
  intro heq
  rw [block, text, word, List.append_assoc, List.append_assoc] at heq
  exact scalar_append_ne hword hstarts _ _ (List.append_cancel_left heq)

theorem block_string_of_unbroken {s : String} (hs : Unbroken s.toList) (spot : Spot)
    (indent : Nat) :
    block spot indent (.string s) = spot.gap ++ (scalar (indent + 2) s.toList ++ ['\n']) := by
  rw [block, text, endsLine_of_unbroken hs, List.append_assoc]
  rfl

/-- A string is told apart from null, from every boolean and from every integer of 64 bits. -/
theorem block_string_ne_of_bare (s : String) {v : Json} (hv : Bare v) (spot : Spot)
    (indent : Nat) : block spot indent (.string s) ≠ block spot indent v := by
  obtain ⟨w, hword, hstarts, hblock⟩ := hv.block_eq
  rw [hblock]
  exact block_string_ne_word hword hstarts spot indent s

theorem scalar_ne {s t : String} (hs : Unbroken s.toList) (ht : Unbroken t.toList) (hne : s ≠ t)
    (indent : Nat) : scalar indent s.toList ≠ scalar indent t.toList :=
  fun heq => hne (String.toList_injective (scalar_injective hs ht heq))

/-- Two strings on one line are told apart from each other. -/
theorem block_string_ne {s t : String} (hs : Unbroken s.toList) (ht : Unbroken t.toList)
    (hne : s ≠ t) (spot : Spot) (indent : Nat) :
    block spot indent (.string s) ≠ block spot indent (.string t) := by
  rw [block_string_of_unbroken hs, block_string_of_unbroken ht]
  intro heq
  exact scalar_ne hs ht hne (indent + 2) (List.append_cancel_right (List.append_cancel_left heq))

end Roster.Yaml
