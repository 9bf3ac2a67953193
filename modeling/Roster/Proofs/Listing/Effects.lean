import Roster.Proofs.Fleet.Lookup
import Roster.Proofs.Listing.Course
/-!
# What a listing asks for, and in which order

A listing asks for instances, then for the selection, then for clusters, and may stop after each of
the three. Where it stops is decided by the answers so far and by the format, and by nothing else.
-/

namespace Roster.Listing

open Plan

variable {σ : Type} (a : Answers σ) (r : Request)

/-- No table of instances is to be shown: no page came, or it is empty or shown as it is. -/
def EndsAtPage : Prop :=
  (∃ e, a.instances r.params = .error e) ∨ r.format ≠ .table ∨
    ∃ page, a.instances r.params = .ok page ∧ page.items = []

/-- A page came whose instances are to be shown in a table. -/
def HasTable (page : Page) : Prop :=
  a.instances r.params = .ok page ∧ r.format = .table ∧ page.items ≠ []

/-- The table cannot be marked, or none of its instances runs on a dedicated cluster. -/
def EndsAtSelection : Prop :=
  ∃ page, HasTable a r page ∧ ((∃ e, a.selection = .error e) ∨
    (∃ selected, a.selection = .ok selected) ∧ ∀ i ∈ page.items, i.cluster = none)

/-- The table can be marked, and some of its instances run on dedicated clusters. -/
def GoesToClusters : Prop :=
  ∃ page, HasTable a r page ∧ (∃ selected, a.selection = .ok selected) ∧
    ∃ i ∈ page.items, i.cluster ≠ none

variable {a r}

theorem HasTable.not_endsAtPage {page : Page} (h : HasTable a r page) : ¬EndsAtPage a r := by
  obtain ⟨hpage, hformat, hitems⟩ := h
  rintro (⟨e, he⟩ | hother | ⟨other, hok, hempty⟩)
  · simp [hpage] at he
  · exact hother hformat
  · rw [hpage, Except.ok.injEq] at hok
    exact hitems (hok ▸ hempty)

theorem HasTable.unique {page other : Page} (h : HasTable a r page) (h' : HasTable a r other) :
    page = other :=
  Except.ok.inj (h.1.symm.trans h'.1)

theorem EndsAtSelection.not_endsAtPage (h : EndsAtSelection a r) : ¬EndsAtPage a r := by
  obtain ⟨page, htable, -⟩ := h
  exact htable.not_endsAtPage

theorem GoesToClusters.not_endsAtPage (h : GoesToClusters a r) : ¬EndsAtPage a r := by
  obtain ⟨page, htable, -⟩ := h
  exact htable.not_endsAtPage

theorem EndsAtSelection.not_goesToClusters (h : EndsAtSelection a r) : ¬GoesToClusters a r := by
  obtain ⟨page, htable, hends⟩ := h
  rintro ⟨other, htable', ⟨selected, hselected⟩, i, hi, hcluster⟩
  obtain rfl := htable.unique htable'
  rcases hends with ⟨e, he⟩ | ⟨_, hnone⟩
  · simp [hselected] at he
  · exact hcluster (hnone i hi)

/-! ### Answers that are noted -/

theorem handler_instances_iff {params : ListParams} {answer : Except ApiError Page}
    {before after : List Effect} :
    a.handler.instances params before = (answer, after) ↔
      a.instances params = answer ∧ before ++ [.instances params] = after := by
  rw [Answers.handler, Prod.mk.injEq]

theorem handler_clusters_iff {params : ListParams} {answer : Except ApiError (List Cluster)}
    {before after : List Effect} :
    a.handler.clusters params before = (answer, after) ↔
      a.clusters params = answer ∧ before ++ [.clusters params] = after := by
  rw [Answers.handler, Prod.mk.injEq]

theorem handler_selection_iff {answer : Except σ (Option String)} {before after : List Effect} :
    a.handler.selection before = (answer, after) ↔
      a.selection = answer ∧ before ++ [.selection] = after := by
  rw [Answers.handler, Prod.mk.injEq]

/-- The effects of a listing with the reason why there are no more. -/
theorem effects_cases (labels : Labels) (a : Answers σ) (r : Request) :
    let effects := (trace a (plan labels r)).state
    (EndsAtPage a r ∧ effects = [.instances r.params]) ∨
      (EndsAtSelection a r ∧ effects = [.instances r.params, .selection]) ∨
        GoesToClusters a r ∧
          ∃ params, effects = [.instances r.params, .selection, .clusters params] := by
  have hcourse := course_run a.handler [] labels r
  unfold trace
  simp only
  generalize run a.handler (plan labels r) [] = run at hcourse ⊢
  cases hcourse with
  | refused hpage =>
      obtain ⟨hpage', rfl⟩ := handler_instances_iff.mp hpage
      exact .inl ⟨.inl ⟨_, hpage'⟩, rfl⟩
  | document hpage hformat =>
      obtain ⟨-, rfl⟩ := handler_instances_iff.mp hpage
      exact .inl ⟨.inr (.inl hformat), rfl⟩
  | empty hpage hformat hitems =>
      obtain ⟨hpage', rfl⟩ := handler_instances_iff.mp hpage
      exact .inl ⟨.inr (.inr ⟨_, hpage', hitems⟩), rfl⟩
  | unselected hpage hformat hitems hselection =>
      obtain ⟨hpage', rfl⟩ := handler_instances_iff.mp hpage
      obtain ⟨hselection', rfl⟩ := handler_selection_iff.mp hselection
      exact .inr (.inl ⟨⟨_, ⟨hpage', hformat, hitems⟩, .inl ⟨_, hselection'⟩⟩, rfl⟩)
  | hosted hpage hformat hitems hselection hparams =>
      obtain ⟨hpage', rfl⟩ := handler_instances_iff.mp hpage
      obtain ⟨hselection', rfl⟩ := handler_selection_iff.mp hselection
      have hnone := Lookup.params?_eq_none_iff.mp hparams
      exact .inr (.inl ⟨⟨_, ⟨hpage', hformat, hitems⟩, .inr ⟨⟨_, hselection'⟩, hnone⟩⟩, rfl⟩)
  | unresolved hpage hformat hitems hselection hparams hclusters =>
      obtain ⟨hpage', rfl⟩ := handler_instances_iff.mp hpage
      obtain ⟨hselection', rfl⟩ := handler_selection_iff.mp hselection
      obtain ⟨-, rfl⟩ := handler_clusters_iff.mp hclusters
      have hsome := Lookup.exists_params?_iff.mp ⟨_, hparams⟩
      exact .inr (.inr ⟨⟨_, ⟨hpage', hformat, hitems⟩, ⟨_, hselection'⟩, hsome⟩, _, rfl⟩)
  | resolved hpage hformat hitems hselection hparams hclusters =>
      obtain ⟨hpage', rfl⟩ := handler_instances_iff.mp hpage
      obtain ⟨hselection', rfl⟩ := handler_selection_iff.mp hselection
      obtain ⟨-, rfl⟩ := handler_clusters_iff.mp hclusters
      have hsome := Lookup.exists_params?_iff.mp ⟨_, hparams⟩
      exact .inr (.inr ⟨⟨_, ⟨hpage', hformat, hitems⟩, ⟨_, hselection'⟩, hsome⟩, _, rfl⟩)

/-- A listing that shows a document never hears of the selection. -/
theorem trace_of_document (labels : Labels) (a : Answers σ) {r : Request}
    (hformat : r.format ≠ .table) (selection : Except σ (Option String)) :
    trace { a with selection } (plan labels r) = trace a (plan labels r) := by
  unfold trace
  rw [run_plan_of_document _ _ labels hformat, run_plan_of_document _ _ labels hformat]
  rfl

/-- **The effects of a listing.** It asks for the requested page, and for nothing more when no
table of instances is to be shown; else for the selection, and for nothing more when that fails or
no instance runs on a dedicated cluster; else for clusters. A listing that shows a document comes to
the same whatever the selection is. -/
theorem effects_of_listing (labels : Labels) (a : Answers σ) (r : Request) :
    let effects := (trace a (plan labels r)).state
    let asked : Effect := .instances ⟨r.page, r.limit, Search.query r.search⟩
    (effects = [asked] ↔ EndsAtPage a r) ∧
      (effects = [asked, .selection] ↔ EndsAtSelection a r) ∧
      ((∃ params, effects = [asked, .selection, .clusters params]) ↔ GoesToClusters a r) ∧
      (effects = [asked] ∨ effects = [asked, .selection] ∨
        ∃ params, effects = [asked, .selection, .clusters params]) ∧
      (r.format ≠ .table → ∀ selection : Except σ (Option String),
        trace { a with selection } (plan labels r) = trace a (plan labels r)) := by
  intro effects asked
  rcases effects_cases labels a r with
    ⟨hends, heffects⟩ | ⟨hends, heffects⟩ | ⟨hgoes, params, heffects⟩
  · have hselection : ¬EndsAtSelection a r := fun h => h.not_endsAtPage hends
    have hclusters : ¬GoesToClusters a r := fun h => h.not_endsAtPage hends
    exact ⟨iff_of_true heffects hends, iff_of_false (by simp [effects, heffects]) hselection,
      iff_of_false (by simp [effects, heffects]) hclusters, .inl heffects,
      fun hformat => trace_of_document labels a hformat⟩
  · have hclusters : ¬GoesToClusters a r := hends.not_goesToClusters
    exact ⟨iff_of_false (by simp [effects, heffects]) hends.not_endsAtPage,
      iff_of_true heffects hends, iff_of_false (by simp [effects, heffects]) hclusters,
      .inr (.inl heffects), fun hformat => trace_of_document labels a hformat⟩
  · have hselection : ¬EndsAtSelection a r := fun h => h.not_goesToClusters hgoes
    exact ⟨iff_of_false (by simp [effects, heffects]) hgoes.not_endsAtPage,
      iff_of_false (by simp [effects, heffects]) hselection,
      iff_of_true ⟨params, heffects⟩ hgoes, .inr (.inr ⟨params, heffects⟩),
      fun hformat => trace_of_document labels a hformat⟩

end Roster.Listing
