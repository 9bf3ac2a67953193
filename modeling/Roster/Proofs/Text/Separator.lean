/-!
# Splitting at a text

A separator of several characters can begin inside a part and end behind it. Joined parts are found
again when the separator begins in none of them, whatever stands behind.
-/

namespace Roster.Text

/-- The parts between the occurrences of a separator, which are looked for from left to right and do
not overlap. -/
def splitOnText (sep : List Char) : List Char → List (List Char)
  | [] => [[]]
  | c :: rest =>
    if sep.isPrefixOf (c :: rest) then [] :: splitOnText sep (rest.drop (sep.length - 1))
    else match splitOnText sep rest with
      | part :: parts => (c :: part) :: parts
      | [] => [[c]]
termination_by s => s.length
decreasing_by
  all_goals simp only [List.length_drop, List.length_cons]; omega

/-- A separator begins nowhere in a text, whatever stands behind the text. -/
def StartsNowhere (sep : List Char) : List Char → Prop
  | [] => True
  | c :: rest => (∀ tail, ¬sep <+: c :: rest ++ tail) ∧ StartsNowhere sep rest

section

variable {sep : List Char}

theorem StartsNowhere.append {s t : List Char} (hs : StartsNowhere sep s)
    (ht : StartsNowhere sep t) : StartsNowhere sep (s ++ t) := by
  induction s with
  | nil => exact ht
  | cons c rest ih =>
      refine ⟨fun tail => ?_, ih hs.2⟩
      have hnot := hs.1 (t ++ tail)
      rwa [← List.append_assoc] at hnot

theorem startsNowhere_of_notMem {c : Char} {s : List Char} (h : c ∉ s) :
    StartsNowhere (c :: sep) s := by
  induction s with
  | nil => trivial
  | cons d rest ih =>
      refine ⟨fun tail hbegins => ?_, ih (List.not_mem_of_not_mem_cons h)⟩
      exact List.ne_of_not_mem_cons h (List.cons_prefix_cons.mp hbegins).1

/-- The first character of a separator does no harm before one that is not the second. -/
theorem startsNowhere_pair {c d x : Char} (hx : d ≠ x) (hc : c ≠ x) :
    StartsNowhere (c :: d :: sep) [c, x] := by
  refine ⟨fun tail hbegins => ?_, fun tail hbegins => ?_, trivial⟩
  · have hsecond := (List.cons_prefix_cons.mp hbegins).2
    exact hx (List.cons_prefix_cons.mp hsecond).1
  · exact hc (List.cons_prefix_cons.mp hbegins).1

theorem splitOnText_of_startsNowhere {s : List Char} (h : StartsNowhere sep s) :
    splitOnText sep s = [s] := by
  induction s with
  | nil => rw [splitOnText]
  | cons c rest ih =>
      have hnot : ¬sep <+: c :: rest := by simpa using h.1 []
      rw [splitOnText, if_neg (by simpa using hnot), ih h.2]

/-- The first part ends where the separator begins. -/
theorem splitOnText_append {s : List Char} (hsep : sep ≠ []) (h : StartsNowhere sep s)
    (rest : List Char) : splitOnText sep (s ++ sep ++ rest) = s :: splitOnText sep rest := by
  induction s with
  | nil =>
      obtain ⟨c, more, rfl⟩ := List.exists_cons_of_ne_nil hsep
      have hbegins : (c :: more).isPrefixOf (c :: (more ++ rest)) := by simp
      rw [List.nil_append, List.cons_append, splitOnText, if_pos hbegins]
      simp
  | cons c part ih =>
      have hnot : ¬sep <+: c :: (part ++ sep ++ rest) := by
        simpa [List.append_assoc] using h.1 (sep ++ rest)
      rw [List.cons_append, List.cons_append, splitOnText, if_neg (by simpa using hnot), ih h.2]

/-- Joined parts are found again. -/
theorem splitOnText_intercalate {parts : List (List Char)} (hsep : sep ≠ []) (hparts : parts ≠ [])
    (h : ∀ part ∈ parts, StartsNowhere sep part) :
    splitOnText sep (sep.intercalate parts) = parts := by
  induction parts with
  | nil => contradiction
  | cons part others ih =>
      obtain ⟨hpart, hothers⟩ := List.forall_mem_cons.mp h
      cases others with
      | nil => rw [List.intercalate_singleton, splitOnText_of_startsNowhere hpart]
      | cons next more =>
          rw [List.intercalate_cons_cons, splitOnText_append hsep hpart,
            ih (List.cons_ne_nil _ _) hothers]

/-- What is kept of joined parts is what is kept of each, joined. -/
theorem filter_intercalate (p : Char → Bool) (parts : List (List Char)) :
    (sep.intercalate parts).filter p = (sep.filter p).intercalate (parts.map (List.filter p)) := by
  induction parts with
  | nil => rfl
  | cons part others ih =>
      cases others with
      | nil => simp only [List.intercalate_singleton, List.map_cons, List.map_nil]
      | cons next more =>
          rw [List.intercalate_cons_cons, List.filter_append, List.filter_append, ih]
          simp only [List.map_cons, List.intercalate_cons_cons]

end

end Roster.Text
