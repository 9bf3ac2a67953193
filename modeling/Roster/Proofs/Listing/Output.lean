import Roster.Proofs.Fleet.Table
import Roster.Proofs.Listing.Course
import Roster.Proofs.Listing.Document
/-!
# What a listing leaves on the terminal

A listing prints once, when nothing can fail any more. What it prints is complete: the document, the
message that there are no instances, or the table with all their rows. A listing that fails has
printed nothing and ends with the error of the first step that failed, as it came.
-/

namespace Roster.Listing

open Plan

variable {σ ω : Type}

/-- The error of the first step that failed, in the order in which a listing takes them. -/
inductive FirstFailure (h : Handler σ ω) (r : Request) (s : ω) : Plan.Error σ → Prop
  | instances {e : ApiError} {s₁ : ω} (hpage : h.instances r.params s = (.error e, s₁)) :
      FirstFailure h r s (.api e)
  | selection {page : Page} {e : σ} {s₁ s₂ : ω}
      (hpage : h.instances r.params s = (.ok page, s₁)) (hformat : r.format = .table)
      (hitems : page.items ≠ []) (hselection : h.selection s₁ = (.error e, s₂)) :
      FirstFailure h r s (.selection e)
  | clusters {page : Page} {selected : Option String} {params : ListParams} {e : ApiError}
      {s₁ s₂ s₃ : ω} (hpage : h.instances r.params s = (.ok page, s₁))
      (hformat : r.format = .table) (hitems : page.items ≠ [])
      (hselection : h.selection s₁ = (.ok selected, s₂))
      (hparams : Lookup.params? page.items = some params)
      (hclusters : h.clusters params s₂ = (.error e, s₃)) : FirstFailure h r s (.api e)

/-- The answer to the lookup of the clusters of instances; none is looked up when no instance names
one. -/
inductive Resolves (h : Handler σ ω) (items : List Instance) (s : ω) : List Cluster → Prop
  | hosted (hparams : Lookup.params? items = none) : Resolves h items s []
  | returned {params : ListParams} {clusters : List Cluster} {s₁ : ω}
      (hparams : Lookup.params? items = some params)
      (hclusters : h.clusters params s = (.ok clusters, s₁)) : Resolves h items s clusters

/-- A text is a whole table, with its header and a row for each instance. -/
def ShowsAll (labels : Labels) (selected : Option String) (items : List Instance)
    (index : ClusterIndex) (out : String) : Prop :=
  (Table.ofRows (Row.ofInstances labels index selected items)).IsWhole out

/-- The complete text that a listing is to print. -/
inductive Complete (h : Handler σ ω) (labels : Labels) (r : Request) (s : ω) : String → Prop
  | document {page : Page} {s₁ : ω} {out : String}
      (hpage : h.instances r.params s = (.ok page, s₁))
      (hshows : r.format.Shows page.document out) : Complete h labels r s out
  | empty {page : Page} {s₁ : ω} (hpage : h.instances r.params s = (.ok page, s₁))
      (hformat : r.format = .table) (hitems : page.items = []) :
      Complete h labels r s "No Kafka instances were found.\n"
  | table {page : Page} {selected : Option String} {clusters : List Cluster} {s₁ s₂ : ω}
      (hpage : h.instances r.params s = (.ok page, s₁))
      (hformat : r.format = .table) (hitems : page.items ≠ [])
      (hselection : h.selection s₁ = (.ok selected, s₂))
      (hclusters : Resolves h page.items s₂ clusters)
      (hwhole : ShowsAll labels selected page.items (.ofList clusters)
        (table labels selected page.items (.ofList clusters))) :
      Complete h labels r s (table labels selected page.items (.ofList clusters))

theorem showsAll_table (labels : Labels) (selected : Option String) {items : List Instance}
    (index : ClusterIndex) (hitems : items ≠ []) :
    ShowsAll labels selected items index (table labels selected items index) := by
  refine Table.isWhole_render (by simp [Table.ofRows, Row.header]) ?_
  simpa [Table.ofRows, Row.ofInstances] using hitems

/-- What is left of a listing: all that it was to print, or nothing but the first error. -/
theorem complete_or_firstFailure (h : Handler σ ω) (labels : Labels) (r : Request) (s : ω) :
    let run := (plan labels r).run h s
    (run.result = .ok () ∧ Complete h labels r s run.out) ∨
      ∃ e, run.result = .error e ∧ run.out = "" ∧ FirstFailure h r s e := by
  have hcourse := course_run h s labels r
  dsimp only
  generalize (plan labels r).run h s = run at hcourse ⊢
  cases hcourse with
  | refused hpage => exact .inr ⟨_, rfl, rfl, .instances hpage⟩
  | document hpage hformat =>
      exact .inl ⟨rfl, .document hpage (Format.shows_document hformat _)⟩
  | empty hpage hformat hitems => exact .inl ⟨rfl, .empty hpage hformat hitems⟩
  | unselected hpage hformat hitems hselection =>
      exact .inr ⟨_, rfl, rfl, .selection hpage hformat hitems hselection⟩
  | hosted hpage hformat hitems hselection hparams =>
      have hnone : (.empty : ClusterIndex) = .ofList [] := rfl
      rw [hnone]
      refine .inl ⟨rfl, .table hpage hformat hitems hselection (.hosted hparams) ?_⟩
      exact showsAll_table labels _ _ hitems
  | unresolved hpage hformat hitems hselection hparams hclusters =>
      exact .inr ⟨_, rfl, rfl, .clusters hpage hformat hitems hselection hparams hclusters⟩
  | resolved hpage hformat hitems hselection hparams hclusters =>
      have hresolves := Resolves.returned hparams hclusters
      refine .inl ⟨rfl, .table hpage hformat hitems hselection hresolves ?_⟩
      exact showsAll_table labels _ _ hitems

end Roster.Listing
