import Mathlib.Data.List.TakeWhile
import Roster.Proofs.Url.Path
import Roster.Url.Parser
/-!
# Queries and fragments

Ordinary characters at the end of a text are its path, unless there is a question mark or a hash. Then
they are the end of its query or of its fragment.
-/

namespace Roster.Url

variable {k : SchemeKind} {p s rest : List Char} {c : Char}

/-- The beginning of a query or of a fragment. -/
def isMark (c : Char) : Bool := c == '?' || c == '#'

def hasTail (s : List Char) : Bool := s.any isMark

theorem isMark_of_isOrdinary (h : isOrdinary c) : isMark c = false :=
  Bool.not_eq_true' _ ▸ of_isOrdinary (q := (!isMark ·)) (by decide +kernel) h

theorem hasTail_iff : hasTail s ↔ '?' ∈ s ∨ '#' ∈ s := by
  simp only [hasTail, isMark, List.any_eq_true, Bool.or_eq_true, beq_iff_eq]
  grind

theorem hasTail_append (s p : List Char) : hasTail (s ++ p) = (hasTail s || hasTail p) :=
  List.any_append

theorem hasTail_of_ordinary (hp : ∀ c ∈ p, isOrdinary c) : hasTail p = false := by
  apply List.any_eq_false.mpr
  intro c hc
  simp [isMark_of_isOrdinary (hp c hc)]

theorem hasTail_dropWhile {q : Char → Bool} (hq : q '?' = false ∧ q '#' = false) (s : List Char) :
    hasTail (s.dropWhile q) = hasTail s := by
  induction s with
  | nil => rfl
  | cons c rest ih =>
      rw [List.dropWhile_cons]
      split
      · next hc =>
        have hmark : isMark c = false := by
          unfold isMark
          grind
        rw [ih]
        simp [hasTail, hmark]
      · rfl

theorem hasTail_filter {q : Char → Bool} (hq : q '?' ∧ q '#') (s : List Char) :
    hasTail (s.filter q) = hasTail s := by
  rw [Bool.eq_iff_iff, hasTail_iff, hasTail_iff, List.mem_filter, List.mem_filter, hq.1, hq.2]
  simp

theorem hasTail_of_suffix (hkeep : ∀ c t, isMark c → c :: t <:+ s → c :: t <:+ rest)
    (hpart : rest <:+ s) : hasTail rest = hasTail s := by
  apply Bool.eq_iff_iff.mpr
  constructor
  · intro h
    obtain ⟨c, hc, hmark⟩ := List.any_eq_true.mp h
    exact List.any_eq_true.mpr ⟨c, hpart.subset hc, hmark⟩
  · intro h
    obtain ⟨c, hc, hmark⟩ := List.any_eq_true.mp h
    obtain ⟨front, t, rfl⟩ := List.append_of_mem hc
    have hrest := hkeep c t hmark (List.suffix_append _ _)
    exact List.any_eq_true.mpr ⟨c, hrest.subset List.mem_cons_self, hmark⟩

/-! ### Behind a path -/

theorem splitTail_of_not_hasTail (h : hasTail s = false) : splitTail k s = (s, none, none) := by
  have hall : ∀ c ∈ s, !isMark c := by
    simpa [hasTail] using h
  unfold isMark at hall
  unfold splitTail
  rw [List.takeWhile_eq_self_iff.mpr hall, List.dropWhile_eq_nil_iff.mpr hall]

theorem suffix_of_dropWhile {α : Type} {q : α → Bool} {c : α} {p s t : List α} (hp : ∀ a ∈ p, q a)
    (h : p <:+ s) (ht : s.dropWhile q = c :: t) : p <:+ t := by
  have hstop := List.head?_dropWhile_not q s
  have hparts := List.takeWhile_append_dropWhile (p := q) (l := s)
  rw [ht] at hstop hparts
  have hc : c ∉ p := by
    intro hmem
    simp [hp c hmem] at hstop
  have hcons : c :: t <:+ s := ⟨_, hparts⟩
  rcases List.suffix_or_suffix_of_suffix h hcons with h | h
  · rcases List.suffix_cons_iff.mp h with rfl | h
    · exact absurd List.mem_cons_self hc
    · exact h
  · exact absurd (h.subset List.mem_cons_self) hc

theorem suffix_percentEncode {keep : Char → Bool} (hp : ∀ c ∈ p, keep c) (h : p <:+ s) :
    p <:+ percentEncode keep s := by
  obtain ⟨front, rfl⟩ := h
  have hself : percentEncode keep p = p := percentEncode_of_keep hp
  have happend : percentEncode keep (front ++ p) = percentEncode keep front ++ p := by
    rw [percentEncode, List.flatMap_append, ← percentEncode, ← percentEncode, hself]
  rw [happend]
  exact List.suffix_append _ _

section

variable (hp : ∀ c ∈ p, isOrdinary c)

include hp

theorem suffix_encodeFragment (h : p <:+ s) : p <:+ percentEncode keepFragment s := by
  apply suffix_percentEncode _ h
  intro c hc
  exact of_isOrdinary (by decide +kernel) (hp c hc)

theorem suffix_encodeQuery (h : p <:+ s) :
    p <:+ percentEncode (if k.isSpecial then keepSpecialQuery else keepQuery) s := by
  apply suffix_percentEncode _ h
  intro c hc
  split
  · exact of_isOrdinary (by decide +kernel) (hp c hc)
  · exact of_isOrdinary (by decide +kernel) (hp c hc)

/-- What a text ends with is in its fragment, or in its query if it has none. -/
theorem exists_tail (htail : hasTail s) (hs : p <:+ s) {path : List Char}
    {query fragment : Option (List Char)} (h : splitTail k s = (path, query, fragment)) :
    ∃ part, fragment.or query = some part ∧ p <:+ part := by
  have hbefore : ∀ c ∈ p, !isMark c := fun c hc => by
    simp [isMark_of_isOrdinary (hp c hc)]
  have hhash : ∀ c ∈ p, decide (c ≠ '#') := fun c hc =>
    of_isOrdinary (q := (· ≠ '#')) (by decide +kernel) (hp c hc)
  unfold splitTail at h
  dsimp only at h
  split at h
  · next t ht =>
    have hquery := suffix_of_dropWhile hbefore hs ht
    split at h
    · next f hf =>
      obtain ⟨-, rfl, rfl⟩ := h
      exact ⟨_, rfl, suffix_encodeFragment hp (suffix_of_dropWhile hhash hquery hf)⟩
    · next hf =>
      obtain ⟨-, rfl, rfl⟩ := h
      have hall : t.takeWhile (· ≠ '#') = t :=
        List.takeWhile_eq_self_iff.mpr (List.dropWhile_eq_nil_iff.mp hf)
      rw [hall]
      exact ⟨_, rfl, suffix_encodeQuery hp hquery⟩
  · next f _ hf =>
    obtain ⟨-, rfl, rfl⟩ := h
    exact ⟨_, rfl, suffix_encodeFragment hp (suffix_of_dropWhile hbefore hs hf)⟩
  · next hnone =>
    obtain ⟨c, hc, hmark⟩ := List.any_eq_true.mp htail
    have hno : !isMark c := List.dropWhile_eq_nil_iff.mp hnone c hc
    simp [hmark] at hno

end

/-- What stands at the end of a text is at the end of the path, or behind the path if there is more
than that. -/
def Attached (p s : List Char) (u : Url) : Prop :=
  if hasTail s then ∃ part, u.fragment.or u.query = some part ∧ p <:+ part else p <:+ u.path

theorem Attached.congr {u : Url} (htail : hasTail s = hasTail rest) (h : Attached p s u) :
    Attached p rest u := by
  unfold Attached at h ⊢
  rwa [← htail]

theorem attached_of_splitTail (hp : ∀ a ∈ p, isOrdinary a) {path : List Char} {u : Url}
    (h : splitTail k s = (path, u.query, u.fragment)) (hs : p <:+ s)
    (hpath : p <:+ path → p <:+ u.path) : Attached p s u := by
  unfold Attached
  split
  · next htail => exact exists_tail hp htail hs h
  · next htail =>
    rw [splitTail_of_not_hasTail (by simpa using htail)] at h
    obtain ⟨rfl, -⟩ := Prod.mk.inj h
    exact hpath hs

end Roster.Url
