import Mathlib.Data.List.Forall2
import Roster.Proofs.Fleet.Index
import Roster.Proofs.Listing.Effects
/-!
# The rows of a listing

Each instance of a page has one row, which shows what the instance says of itself and the name that
the cluster list gave last for its cluster.
-/

namespace Roster

/-- What a row shows of an instance when some clusters were returned. -/
structure Row.Shows (labels : Labels) (clusters : List Cluster) (i : Instance) (row : Row) :
    Prop where
  id : row.id = i.id
  owner : row.owner = i.owner
  status : row.status = i.status
  provider : row.provider = i.provider
  region : row.region = i.region
  hosted : i.cluster = none → row.cluster = labels.hosted
  named : ∀ id c, i.cluster = some id → Cluster.IsLast clusters id c →
    row.cluster = c.name ++ " (" ++ id ++ ")"
  unknown : ∀ id, i.cluster = some id → (∀ c ∈ clusters, c.id ≠ id) →
    row.cluster = "unknown (" ++ id ++ ")"
  ownId : ∀ id, i.cluster = some id → ∃ name, row.cluster = name ++ " (" ++ id ++ ")"

namespace Row

theorem shows_ofInstance (labels : Labels) (clusters : List Cluster) (selected : Option String)
    (i : Instance) :
    Shows labels clusters i (ofInstance labels (.ofList clusters) selected i) where
  id := rfl
  owner := rfl
  status := rfl
  provider := rfl
  region := rfl
  hosted hnone := by simp only [ofInstance, clusterLabel, hnone]
  named id c hid hlast := by
    have hfind := ClusterIndex.find?_ofList_eq_some_iff.mpr hlast
    simp only [ofInstance, clusterLabel, hid, hfind, hlast.1]
  unknown id hid hnone := by
    have hfind := ClusterIndex.find?_ofList_eq_none_iff.mpr hnone
    simp only [ofInstance, clusterLabel, hid, hfind]
  ownId id hid := by
    simp only [ofInstance, clusterLabel, hid]
    cases hfind : (ClusterIndex.ofList clusters).find? id with
    | none => exact ⟨"unknown", rfl⟩
    | some c =>
        have hlast := ClusterIndex.find?_ofList_eq_some_iff.mp hfind
        exact ⟨c.name, by simp only [hlast.1]⟩

theorem shows_ofInstances (labels : Labels) (clusters : List Cluster) (selected : Option String)
    (items : List Instance) :
    List.Forall₂ (Shows labels clusters) items
      (ofInstances labels (.ofList clusters) selected items) := by
  induction items with
  | nil => exact .nil
  | cons i rest ih => exact .cons (shows_ofInstance labels clusters _ i) ih

/-- Rows depend on an index only through the ids that the instances name. -/
theorem ofInstances_congr (labels : Labels) {index other : ClusterIndex} (selected : Option String)
    {items : List Instance}
    (hsame : ∀ i ∈ items, ∀ id, i.cluster = some id → index.find? id = other.find? id) :
    ofInstances labels index selected items = ofInstances labels other selected items := by
  refine List.map_congr_left fun i hi => ?_
  have hlabel : clusterLabel labels index i = clusterLabel labels other i := by
    unfold clusterLabel
    split
    · rfl
    · next id hid => rw [hsame i hi id hid]
  simp only [ofInstance, hlabel]

end Row

namespace Listing

open Plan

variable {σ : Type}

/-- Given every answer, a listing prints the rows of the whole page. -/
theorem out_of_table (labels : Labels) {a : Answers σ} {r : Request} {page : Page}
    {selected : Option String} {clusters : List Cluster} (htable : HasTable a r page)
    (hselection : a.selection = .ok selected)
    (hclusters : ∀ params, a.clusters params = .ok clusters) :
    (trace a (plan labels r)).out = table labels selected page.items (.ofList clusters) := by
  have hcourse := course_run a.handler [] labels r
  unfold trace
  generalize run a.handler (plan labels r) [] = run at hcourse ⊢
  obtain ⟨hpage, hformat, hitems⟩ := htable
  cases hcourse with
  | refused hother =>
      have herror := (handler_instances_iff.mp hother).1
      simp [hpage] at herror
  | document _ hother => exact absurd hformat hother
  | empty hother _ hempty =>
      have hok := (handler_instances_iff.mp hother).1
      rw [hpage, Except.ok.injEq] at hok
      exact absurd (hok ▸ hempty) hitems
  | unselected _ _ _ hother =>
      have herror := (handler_selection_iff.mp hother).1
      simp [hselection] at herror
  | hosted hother _ _ hselection' hparams =>
      have hok := (handler_instances_iff.mp hother).1
      rw [hpage, Except.ok.injEq] at hok
      have hsame := (handler_selection_iff.mp hselection').1
      rw [hselection, Except.ok.injEq] at hsame
      subst hok hsame
      have hnone := Lookup.params?_eq_none_iff.mp hparams
      unfold table
      rw [Row.ofInstances_congr labels selected]
      intro i hi id hid
      simp [hnone i hi] at hid
  | unresolved _ _ _ _ _ hother =>
      have herror := (handler_clusters_iff.mp hother).1
      simp [hclusters] at herror
  | resolved hother _ _ hselection' _ hclusters' =>
      have hok := (handler_instances_iff.mp hother).1
      rw [hpage, Except.ok.injEq] at hok
      have hsame := (handler_selection_iff.mp hselection').1
      rw [hselection, Except.ok.injEq] at hsame
      have hindex := (handler_clusters_iff.mp hclusters').1
      rw [hclusters, Except.ok.injEq] at hindex
      subst hok hsame hindex
      rfl

/-- **The rows of a listing.** Whatever clusters are returned, each instance of the page has one
row, in the order of the page, which shows what the instance says and names its cluster by its own id
and the last name returned for that id. Clusters that are last under the same of these ids give the
same rows, and a table of the page consists of the rows, whatever its limit was. -/
theorem rows_of_listing (labels : Labels) (selected : Option String) (items : List Instance)
    (clusters : List Cluster) :
    let rows (clusters : List Cluster) :=
      Row.ofInstances labels (.ofList clusters) selected items
    List.Forall₂ (Row.Shows labels clusters) items (rows clusters) ∧
      (∀ others : List Cluster,
        (∀ i ∈ items, ∀ id, i.cluster = some id →
          ∀ c, Cluster.IsLast others id c ↔ Cluster.IsLast clusters id c) →
        rows others = rows clusters) ∧
      ∀ (a : Answers σ) (r : Request) (page : Page), HasTable a r page → page.items = items →
        a.selection = .ok selected → (∀ params, a.clusters params = .ok clusters) →
        (trace a (plan labels r)).out = (Table.ofRows (rows clusters)).render [] false := by
  refine ⟨Row.shows_ofInstances labels clusters selected items, ?_, ?_⟩
  · intro others hsame
    apply Row.ofInstances_congr
    intro i hi id hid
    ext c
    rw [ClusterIndex.find?_ofList_eq_some_iff, ClusterIndex.find?_ofList_eq_some_iff]
    exact hsame i hi id hid c
  · rintro a r page htable rfl hselection hclusters
    exact out_of_table labels htable hselection hclusters

end Listing

end Roster
