import Roster.Fleet.Cluster
/-!
# The index of clusters

However often an id comes in an answer, the index knows the last cluster that has it, and no other
cluster is found under that id.
-/

namespace Roster

/-- The last cluster of a list with an id. -/
def Cluster.IsLast (clusters : List Cluster) (id : String) (c : Cluster) : Prop :=
  c.id = id ∧ ∃ before after, clusters = before ++ c :: after ∧ ∀ other ∈ after, other.id ≠ id

namespace ClusterIndex

/-- Clusters inserted one after another hide those that were there before. -/
theorem find?_foldl_insert (clusters : List Cluster) (index : ClusterIndex) (id : String) :
    (clusters.foldl (fun index c => index.insert c) index).find? id =
      (clusters.reverse.find? (·.id = id)).or (index.find? id) := by
  induction clusters generalizing index with
  | nil => rfl
  | cons c rest ih =>
      rw [List.foldl_cons, ih, List.reverse_cons, List.find?_append, Option.or_assoc]
      congr 1
      by_cases hid : id = c.id
      · subst hid
        rw [find?_insert_self]
        simp
      · rw [find?_insert_of_ne hid]
        simp [Ne.symm hid]

theorem find?_ofList (clusters : List Cluster) (id : String) :
    (ofList clusters).find? id = clusters.reverse.find? (·.id = id) := by
  rw [ofList, find?_foldl_insert]
  exact Option.or_none

theorem find?_ofList_eq_some_iff {clusters : List Cluster} {id : String} {c : Cluster} :
    (ofList clusters).find? id = some c ↔ Cluster.IsLast clusters id c := by
  rw [find?_ofList, List.find?_eq_some_iff_append, Cluster.IsLast]
  simp only [decide_eq_true_eq, decide_eq_false_iff_not, Bool.not_eq_true', List.reverse_eq_iff]
  refine and_congr_right fun _ => ?_
  constructor
  · rintro ⟨after, before, rfl, hafter⟩
    refine ⟨before.reverse, after.reverse, by simp, fun other hother => ?_⟩
    exact hafter other (List.mem_reverse.mp hother)
  · rintro ⟨before, after, rfl, hafter⟩
    refine ⟨after.reverse, before.reverse, by simp, fun other hother => ?_⟩
    exact hafter other (List.mem_reverse.mp hother)

theorem find?_ofList_eq_none_iff {clusters : List Cluster} {id : String} :
    (ofList clusters).find? id = none ↔ ∀ c ∈ clusters, c.id ≠ id := by
  rw [find?_ofList]
  simp

end ClusterIndex

end Roster
