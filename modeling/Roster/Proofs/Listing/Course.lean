import Roster.Listing.Basic
/-!
# The courses of a listing

A listing can go in seven ways. Each is given with the answers that lead to it and with all that is
left behind: what was printed, how the listing ended and the state after the last answer. The rest
reaches the plan only through `course_run`, so a plan with other steps changes this module alone.
-/

namespace Roster.Listing

open Plan

variable {σ ω : Type}

/-- The ways through a listing against a handler that starts from a state. -/
inductive Course (h : Handler σ ω) (labels : Labels) (r : Request) (s : ω) :
    Plan.Run σ Unit ω → Prop
  | refused {e : ApiError} {s₁ : ω} (hpage : h.instances r.params s = (.error e, s₁)) :
      Course h labels r s ⟨"", .error (.api e), s₁⟩
  | document {page : Page} {s₁ : ω} (hpage : h.instances r.params s = (.ok page, s₁))
      (hformat : r.format ≠ .table) :
      Course h labels r s ⟨r.format.document page.document, .ok (), s₁⟩
  | empty {page : Page} {s₁ : ω} (hpage : h.instances r.params s = (.ok page, s₁))
      (hformat : r.format = .table) (hitems : page.items = []) :
      Course h labels r s ⟨emptyMessage ++ "\n", .ok (), s₁⟩
  | unselected {page : Page} {e : σ} {s₁ s₂ : ω}
      (hpage : h.instances r.params s = (.ok page, s₁))
      (hformat : r.format = .table) (hitems : page.items ≠ [])
      (hselection : h.selection s₁ = (.error e, s₂)) :
      Course h labels r s ⟨"", .error (.selection e), s₂⟩
  | hosted {page : Page} {selected : Option String} {s₁ s₂ : ω}
      (hpage : h.instances r.params s = (.ok page, s₁))
      (hformat : r.format = .table) (hitems : page.items ≠ [])
      (hselection : h.selection s₁ = (.ok selected, s₂))
      (hparams : Lookup.params? page.items = none) :
      Course h labels r s ⟨table labels selected page.items .empty, .ok (), s₂⟩
  | unresolved {page : Page} {selected : Option String} {params : ListParams} {e : ApiError}
      {s₁ s₂ s₃ : ω} (hpage : h.instances r.params s = (.ok page, s₁))
      (hformat : r.format = .table) (hitems : page.items ≠ [])
      (hselection : h.selection s₁ = (.ok selected, s₂))
      (hparams : Lookup.params? page.items = some params)
      (hclusters : h.clusters params s₂ = (.error e, s₃)) :
      Course h labels r s ⟨"", .error (.api e), s₃⟩
  | resolved {page : Page} {selected : Option String} {params : ListParams}
      {clusters : List Cluster} {s₁ s₂ s₃ : ω}
      (hpage : h.instances r.params s = (.ok page, s₁))
      (hformat : r.format = .table) (hitems : page.items ≠ [])
      (hselection : h.selection s₁ = (.ok selected, s₂))
      (hparams : Lookup.params? page.items = some params)
      (hclusters : h.clusters params s₂ = (.ok clusters, s₃)) :
      Course h labels r s ⟨table labels selected page.items (.ofList clusters), .ok (), s₃⟩

/-! ### Steps -/

variable (h : Handler σ ω) (out : String) (s : ω)

theorem runFrom_say (text : String) :
    (say text : Plan σ Unit).runFrom h out s = ⟨out ++ text, .ok (), s⟩ := rfl

theorem runFrom_getInstances (params : ListParams) :
    (getInstances params).runFrom h out s =
      ⟨out, (h.instances params s).1.mapError .api, (h.instances params s).2⟩ := rfl

theorem runFrom_getClusters (params : ListParams) :
    (getClusters params).runFrom h out s =
      ⟨out, (h.clusters params s).1.mapError .api, (h.clusters params s).2⟩ := rfl

theorem runFrom_getSelection :
    (getSelection : Plan σ (Option String)).runFrom h out s =
      ⟨out, (h.selection s).1.mapError .selection, (h.selection s).2⟩ := rfl

/-- Nothing is asked when no instance names a cluster. -/
theorem runFrom_resolve_of_none {items : List Instance} (hparams : Lookup.params? items = none) :
    (resolve items).runFrom h out s = ⟨out, .ok .empty, s⟩ := by
  simp only [resolve, hparams]
  rfl

theorem runFrom_resolve_of_some {items : List Instance} {params : ListParams}
    (hparams : Lookup.params? items = some params) :
    (resolve items).runFrom h out s =
      ⟨out, ((h.clusters params s).1.map .ofList).mapError .api, (h.clusters params s).2⟩ := by
  simp only [resolve, hparams]
  rw [runFrom_bind, runFrom_getClusters]
  cases (h.clusters params s).1 <;> rfl

/-! ### Every run takes one of the courses -/

private theorem course_showTable {labels : Labels} {r : Request} {s₀ : ω} {page : Page}
    (hpage : h.instances r.params s₀ = (.ok page, s)) (hformat : r.format = .table)
    (hitems : page.items ≠ []) :
    Course h labels r s₀ ((showTable labels page.items).runFrom h "" s) := by
  unfold showTable
  rw [runFrom_bind, runFrom_getSelection]
  rcases hselection : h.selection s with ⟨e | selected, s₂⟩
  · exact .unselected hpage hformat hitems hselection
  · change Course h labels r s₀ (runFrom h "" (resolve page.items >>= _) s₂)
    rw [runFrom_bind]
    cases hparams : Lookup.params? page.items with
    | none =>
        rw [runFrom_resolve_of_none h "" s₂ hparams]
        change Course h labels r s₀ ((say _).runFrom h "" s₂)
        rw [runFrom_say, String.empty_append]
        exact .hosted hpage hformat hitems hselection hparams
    | some params =>
        rw [runFrom_resolve_of_some h "" s₂ hparams]
        rcases hclusters : h.clusters params s₂ with ⟨e | clusters, s₃⟩
        · exact .unresolved hpage hformat hitems hselection hparams hclusters
        · change Course h labels r s₀ ((say _).runFrom h "" s₃)
          rw [runFrom_say, String.empty_append]
          exact .resolved hpage hformat hitems hselection hparams hclusters

theorem course_run (labels : Labels) (r : Request) :
    Course h labels r s ((plan labels r).run h s) := by
  unfold plan run fetch
  rw [runFrom_bind, runFrom_getInstances]
  rcases hpage : h.instances r.params s with ⟨e | page, s₁⟩
  · exact .refused hpage
  · change Course h labels r s (runFrom h "" (ite _ _ _) s₁)
    split
    · next hformat =>
      rw [runFrom_say, String.empty_append]
      exact .document hpage hformat
    · next hformat =>
      have htable : r.format = .table := Decidable.not_not.mp hformat
      split
      · next hempty =>
        rw [runFrom_say, String.empty_append]
        exact .empty hpage htable (List.isEmpty_iff.mp hempty)
      · next hempty =>
        exact course_showTable h s₁ hpage htable fun hnil => hempty (List.isEmpty_iff.mpr hnil)

/-- A listing that shows a document is over with the answer to its first call. -/
theorem run_plan_of_document (labels : Labels) {r : Request} (hformat : r.format ≠ .table) :
    (plan labels r).run h s =
      match h.instances r.params s with
      | (.error e, s₁) => ⟨"", .error (.api e), s₁⟩
      | (.ok page, s₁) => ⟨r.format.document page.document, .ok (), s₁⟩ := by
  have hcourse := course_run h s labels r
  generalize (plan labels r).run h s = run at hcourse ⊢
  cases hcourse with
  | refused hpage => rw [hpage]
  | document hpage _ => rw [hpage]
  | empty _ htable _ | unselected _ htable _ _ | hosted _ htable _ _ _
  | unresolved _ htable _ _ _ _ | resolved _ htable _ _ _ _ => exact absurd htable hformat

end Roster.Listing
