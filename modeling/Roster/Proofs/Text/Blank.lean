import Roster.Text.Blank
/-!
# Dropping the end of a list

A list without the run at its end is a prefix of the list, in which only members of the run are
missing. It is part of what is left of any longer list.
-/

namespace Roster.Text

variable {α : Type} {p : α → Bool}

theorem mem_dropTail {a : α} (ha : p a = false) {s : List α} : a ∈ dropTail p s ↔ a ∈ s := by
  induction s with
  | nil => rfl
  | cons b rest ih =>
      unfold dropTail
      split
      · next hnil =>
        rw [hnil] at ih
        by_cases hb : p b
        · rw [if_pos hb]
          grind
        · rw [if_neg hb]
          grind
      · rw [List.mem_cons, List.mem_cons, ih]

theorem dropTail_append_replicate {a : α} (ha : p a) (s : List α) (n : Nat) :
    dropTail p (s ++ List.replicate n a) = dropTail p s := by
  induction s with
  | nil =>
      apply dropTail_eq_nil_iff.mpr
      intro x hx
      rw [List.eq_of_mem_replicate hx]
      exact ha
  | cons b rest ih => rw [List.cons_append, dropTail, dropTail, ih]

theorem dropTail_prefix_append (s t : List α) : dropTail p s <+: dropTail p (s ++ t) := by
  induction s with
  | nil => exact List.nil_prefix
  | cons a rest ih =>
      rw [List.cons_append, dropTail, dropTail]
      cases hrest : dropTail p rest with
      | nil =>
          dsimp only
          by_cases ha : p a
          · rw [if_pos ha]
            exact List.nil_prefix
          · rw [if_neg ha]
            cases dropTail p (rest ++ t) <;> simp
      | cons b kept =>
          rw [hrest] at ih
          cases hmore : dropTail p (rest ++ t) with
          | nil =>
              rw [hmore] at ih
              simp at ih
          | cons c others =>
              rw [hmore] at ih
              exact List.cons_prefix_cons.mpr ⟨rfl, ih⟩

theorem dropTail_suffix_append (s t : List α) : dropTail p t <:+ dropTail p (s ++ t) := by
  induction s with
  | nil => exact List.suffix_rfl
  | cons a rest ih =>
      rw [List.cons_append, dropTail]
      cases hrest : dropTail p (rest ++ t) with
      | nil =>
          rw [hrest, List.suffix_nil] at ih
          rw [ih]
          exact List.nil_suffix
      | cons b kept =>
          rw [hrest] at ih
          exact ih.trans (List.suffix_cons a _)

/-- What a line shows in front of its blanks is still shown when the line is a part of another. -/
theorem trimEnd_infix (front line back : List Char) :
    trimEnd line <:+: trimEnd (front ++ line ++ back) :=
  (dropTail_suffix_append front line).isInfix.trans
    (dropTail_prefix_append (front ++ line) back).isInfix

end Roster.Text
