import Mathlib.Data.List.Dedup
import Mathlib.Data.List.Sort
import Mathlib.Data.String.Basic
import Mathlib.Tactic.ByContra
import Mathlib.Tactic.Push
import Roster.Fleet.Lookup
/-!
# When clusters are looked up, and which

A lookup is made exactly for the instances of which some runs on a dedicated cluster. The ids that it
asks for are ascending, so it depends on the instances through the set of their clusters alone.
-/

namespace Roster.Lookup

theorem params?_eq_none_iff {items : List Instance} :
    params? items = none ↔ ∀ i ∈ items, i.cluster = none := by
  have hids : ids items = [] ↔ ∀ i ∈ items, i.cluster = none := by
    rw [List.eq_nil_iff_forall_not_mem]
    constructor
    · intro hnone i hi
      by_contra hsome
      obtain ⟨id, hid⟩ := Option.ne_none_iff_exists'.mp hsome
      exact hnone id (mem_ids.mpr ⟨i, hi, hid⟩)
    · intro hnone id hid
      obtain ⟨i, hi, hcluster⟩ := mem_ids.mp hid
      rw [hnone i hi] at hcluster
      simp at hcluster
  rw [← hids, params?]
  simp

theorem exists_params?_iff {items : List Instance} :
    (∃ params, params? items = some params) ↔ ∃ i ∈ items, i.cluster ≠ none := by
  rw [← Option.ne_none_iff_exists', ne_eq, params?_eq_none_iff]
  push Not
  rfl

theorem params?_eq_of_ne_nil {items : List Instance} (h : ids items ≠ []) :
    params? items =
      some ⟨1, min (ids items).length 4294967295, some (filter (ids items))⟩ := by
  rw [params?, if_neg (by simpa using h)]
  rfl

/-! ### Ascending ids -/

theorem pairwise_insertId {id : String} {ids : List String} (h : ids.Pairwise (· < ·)) :
    (insertId id ids).Pairwise (· < ·) := by
  induction ids with
  | nil => simp [insertId]
  | cons first rest ih =>
      obtain ⟨hfirst, hrest⟩ := List.pairwise_cons.mp h
      unfold insertId
      split
      · next hlt =>
        apply List.pairwise_cons.mpr
        refine ⟨?_, h⟩
        intro other hother
        rcases List.mem_cons.mp hother with rfl | hother
        · exact hlt
        · exact lt_trans hlt (hfirst other hother)
      · next hlt =>
        split
        · exact h
        · next hne =>
          have hgt : first < id := lt_of_le_of_ne (not_lt.mp hlt) (Ne.symm hne)
          apply List.pairwise_cons.mpr
          refine ⟨?_, ih hrest⟩
          intro other hother
          rcases mem_insertId.mp hother with rfl | hother
          · exact hgt
          · exact hfirst other hother

theorem pairwise_ids (items : List Instance) : (ids items).Pairwise (· < ·) := by
  unfold ids
  induction items.filterMap (·.cluster) with
  | nil => exact .nil
  | cons id rest ih => exact pairwise_insertId ih

/-- There are as many ids as clusters are referenced, each counted once. -/
theorem length_ids (items : List Instance) :
    (ids items).length = (items.filterMap (·.cluster)).dedup.length := by
  apply List.Perm.length_eq
  have hnodup : (ids items).Nodup := (pairwise_ids items).imp fun h => ne_of_lt h
  apply (List.perm_ext_iff_of_nodup hnodup (List.nodup_dedup _)).mpr
  intro id
  rw [mem_ids, List.mem_dedup, List.mem_filterMap]

theorem params?_eq_some {items : List Instance} {params : ListParams}
    (h : params? items = some params) :
    ids items ≠ [] ∧
      params = ⟨1, min (ids items).length 4294967295, some (filter (ids items))⟩ := by
  have hne : ids items ≠ [] := by
    intro hnil
    simp [params?, hnil] at h
  exact ⟨hne, Option.some.inj (h.symm.trans (params?_eq_of_ne_nil hne))⟩

/-! ### Instances on the same clusters -/

/-- Two lists of instances run on the same dedicated clusters. -/
def SameClusters (items other : List Instance) : Prop :=
  ∀ id, (∃ i ∈ items, i.cluster = some id) ↔ ∃ i ∈ other, i.cluster = some id

section

variable {items other : List Instance}

theorem ids_eq_iff : ids items = ids other ↔ SameClusters items other := by
  constructor
  · intro h id
    rw [← mem_ids, ← mem_ids, h]
  · intro h
    apply (pairwise_ids items).eq_of_mem_iff (pairwise_ids other)
    intro id
    rw [mem_ids, mem_ids]
    exact h id

theorem SameClusters.params?_eq (h : SameClusters items other) : params? items = params? other := by
  unfold params?
  rw [ids_eq_iff.mpr h]

theorem SameClusters.of_perm (h : items.Perm other) : SameClusters items other := by
  intro id
  simp only [h.mem_iff]

theorem SameClusters.append_of_subset (h : other ⊆ items) : SameClusters items (items ++ other) := by
  intro id
  constructor
  · rintro ⟨i, hi, hid⟩
    exact ⟨i, List.mem_append_left other hi, hid⟩
  · rintro ⟨i, hi, hid⟩
    rcases List.mem_append.mp hi with hi | hi
    · exact ⟨i, hi, hid⟩
    · exact ⟨i, h hi, hid⟩

theorem SameClusters.append_hosted {front back hosted : List Instance}
    (h : ∀ i ∈ hosted, i.cluster = none) :
    SameClusters (front ++ back) (front ++ hosted ++ back) := by
  intro id
  constructor
  · rintro ⟨i, hi, hid⟩
    refine ⟨i, ?_, hid⟩
    simp only [List.mem_append] at hi ⊢
    tauto
  · rintro ⟨i, hi, hid⟩
    refine ⟨i, ?_, hid⟩
    have hnot : i ∉ hosted := fun hmem => by simp [h i hmem] at hid
    simp only [List.mem_append] at hi ⊢
    tauto

end

end Roster.Lookup
