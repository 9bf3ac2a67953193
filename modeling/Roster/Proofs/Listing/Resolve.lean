import Roster.Proofs.Fleet.Lookup
import Roster.Proofs.Listing.Course
import Roster.Proofs.Text.Order
/-!
# Resolving clusters

Resolving the clusters of some instances takes one call, or none when all of them are hosted. What is
asked follows from the set of the clusters, in the order of their bytes.
-/

namespace Roster.Listing

open Plan

variable {σ : Type} (a : Answers σ) {items other : List Instance}

theorem trace_resolve_of_none (h : Lookup.params? items = none) :
    trace a (resolve items) = ⟨"", .ok .empty, []⟩ := by
  unfold trace run
  rw [runFrom_resolve_of_none _ _ _ h]

theorem trace_resolve_of_some {params : ListParams} (h : Lookup.params? items = some params) :
    trace a (resolve items) =
      ⟨"", (match a.clusters params with
        | .error e => .error (.api e)
        | .ok found => .ok (.ofList found)), [.clusters params]⟩ := by
  unfold trace run
  rw [runFrom_resolve_of_some _ _ _ h]
  simp only [Answers.handler, List.nil_append]
  cases a.clusters params <;> rfl

theorem resolve_congr (h : Lookup.params? items = Lookup.params? other) :
    (resolve items : Plan σ ClusterIndex) = resolve other := by
  unfold resolve
  rw [h]

/-- **Resolving clusters.** No call is made for hosted instances, and one for any others: for the
first page, with room for all the clusters they run on, and with a filter that names each of them once,
in ascending order. The error of the call is that of the resolution. Instances in another order, once
more, or with hosted ones among them are resolved by the same call. -/
theorem lookup_of_resolve (items : List Instance) :
    ((∀ i ∈ items, i.cluster = none) → trace a (resolve items) = ⟨"", .ok .empty, []⟩) ∧
      ((∃ i ∈ items, i.cluster ≠ none) →
        ∃ ids : List String,
          ids.Pairwise (fun id other => Url.utf8 id.toList < Url.utf8 other.toList) ∧
          (∀ id, id ∈ ids ↔ ∃ i ∈ items, i.cluster = some id) ∧
          let params : ListParams := ⟨1, min ids.length 4294967295,
            some (" or ".intercalate (ids.map fun id => "id = '" ++ id ++ "'"))⟩
          trace a (resolve items) =
            ⟨"", (match a.clusters params with
              | .error e => .error (.api e)
              | .ok found => .ok (.ofList found)), [.clusters params]⟩) ∧
      (∀ other, Lookup.SameClusters items other →
        (resolve other : Plan σ ClusterIndex) = resolve items) ∧
      (∀ other, items.Perm other → (resolve other : Plan σ ClusterIndex) = resolve items) ∧
      (∀ again, again ⊆ items →
        (resolve (items ++ again) : Plan σ ClusterIndex) = resolve items) ∧
      ∀ front back hosted, items = front ++ back → (∀ i ∈ hosted, i.cluster = none) →
        (resolve (front ++ hosted ++ back) : Plan σ ClusterIndex) = resolve items := by
  refine ⟨?_, ?_, ?_, ?_, ?_, ?_⟩
  · intro hnone
    exact trace_resolve_of_none a (Lookup.params?_eq_none_iff.mpr hnone)
  · intro hsome
    have hne : Lookup.ids items ≠ [] := by
      intro hnil
      obtain ⟨params, hparams⟩ := Lookup.exists_params?_iff.mpr hsome
      simp [Lookup.params?, hnil] at hparams
    refine ⟨Lookup.ids items, ?_, fun id => Lookup.mem_ids, ?_⟩
    · apply (Lookup.pairwise_ids items).imp
      intro id other hlt
      exact Url.utf8_lt_utf8 (String.lt_iff_toList_lt.mp hlt)
    · exact trace_resolve_of_some a (Lookup.params?_eq_of_ne_nil hne)
  · intro other hsame
    exact resolve_congr hsame.params?_eq.symm
  · intro other hperm
    exact resolve_congr (Lookup.SameClusters.of_perm hperm).params?_eq.symm
  · intro again hsubset
    exact resolve_congr (Lookup.SameClusters.append_of_subset hsubset).params?_eq.symm
  · rintro front back hosted rfl hhosted
    exact resolve_congr (Lookup.SameClusters.append_hosted hhosted).params?_eq.symm

end Roster.Listing
