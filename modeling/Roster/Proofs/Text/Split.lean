import Roster.Text.Split
/-!
# Splitting joined texts

A separator between two texts splits them: the parts of the whole are the parts of the one and the
parts of the other. Splitting and joining make up no characters but separators.
-/

namespace Roster.Text

variable {sep : Char} {s : List Char}

theorem splitOn_cons_self (sep : Char) (s : List Char) :
    splitOn sep (sep :: s) = [] :: splitOn sep s := by
  rw [splitOn, if_pos rfl]

theorem splitOn_append (sep : Char) (s t : List Char) :
    splitOn sep (s ++ sep :: t) = splitOn sep s ++ splitOn sep t := by
  induction s with
  | nil => rw [List.nil_append, splitOn_cons_self]; rfl
  | cons c rest ih =>
      by_cases hc : c = sep
      · subst hc
        rw [List.cons_append, splitOn_cons_self, splitOn_cons_self, ih]
        rfl
      · obtain ⟨part, parts, hparts⟩ := List.exists_cons_of_ne_nil (splitOn_ne_nil sep rest)
        rw [List.cons_append, splitOn, if_neg hc, ih, splitOn, if_neg hc, hparts]
        rfl

theorem splitOn_of_notMem (h : sep ∉ s) : splitOn sep s = [s] := by
  induction s with
  | nil => rfl
  | cons c rest ih =>
      have hc : c ≠ sep := Ne.symm (List.ne_of_not_mem_cons h)
      rw [splitOn, if_neg hc, ih (List.not_mem_of_not_mem_cons h)]

theorem splitOn_append_of_notMem (h : sep ∉ s) (t : List Char) :
    splitOn sep (s ++ sep :: t) = s :: splitOn sep t := by
  rw [splitOn_append, splitOn_of_notMem h]
  rfl

theorem mem_of_mem_joinWith {sep c : Char} {parts : List (List Char)}
    (h : c ∈ joinWith sep parts) : c = sep ∨ ∃ part ∈ parts, c ∈ part := by
  induction parts with
  | nil => contradiction
  | cons part parts ih =>
      cases parts with
      | nil => exact .inr ⟨part, List.mem_cons_self, h⟩
      | cons next others =>
          rw [joinWith_cons _ _ (List.cons_ne_nil _ _), List.mem_append, List.mem_cons] at h
          rcases h with h | h | h
          · exact .inr ⟨part, List.mem_cons_self, h⟩
          · exact .inl h
          · rcases ih h with h | ⟨other, hother, h⟩
            · exact .inl h
            · exact .inr ⟨other, List.mem_cons_of_mem part hother, h⟩

theorem mem_of_mem_splitOn {sep c : Char} {s part : List Char} (hpart : part ∈ splitOn sep s)
    (h : c ∈ part) : c ∈ s := by
  rw [← joinWith_splitOn sep s]
  generalize splitOn sep s = parts at hpart
  induction parts with
  | nil => contradiction
  | cons first parts ih =>
      cases parts with
      | nil =>
          rw [List.mem_singleton.mp hpart] at h
          exact h
      | cons next others =>
          rw [joinWith_cons _ _ (List.cons_ne_nil _ _), List.mem_append, List.mem_cons]
          rcases List.mem_cons.mp hpart with rfl | hpart
          · exact .inl h
          · exact .inr (.inr (ih hpart))

/-- Up to a mark that a text does not have nothing of it stops a reader. -/
theorem ne_of_notMem (h : sep ∉ s) : ∀ c ∈ s, decide (c ≠ sep) = true := by
  intro c hc
  apply decide_eq_true
  rintro rfl
  exact h hc

end Roster.Text
