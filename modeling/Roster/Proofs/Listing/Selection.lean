import Roster.Proofs.Listing.Rows
import Roster.Proofs.Outcome
import Roster.Settings.Contexts
/-!
# The selected instance

The current context selects an instance if it has an entry, and if the entry gives an id that is
neither empty nor the one that stands for none. The rows of that instance carry the marker. A current
context without an entry is the one mistake that contexts can have.
-/

namespace Roster

namespace Contexts

/-- The current context, if it is named. -/
def Names (c : Contexts) (name : String) : Prop := c.current = some name ∧ name ≠ ""

/-- The entry of the current context selects an instance. -/
def Selects (c : Contexts) (id : String) : Prop :=
  ∃ name context, c.Names name ∧ c.entries.lookup name = some context ∧
    context.instanceId = some id ∧ id ≠ "" ∧ id ≠ "-"

/-- The current context has no entry. -/
def Lacks (c : Contexts) (name : String) : Prop := c.Names name ∧ c.entries.lookup name = none

variable {c other : Contexts} {path : String}

theorem names_iff {name : String} : c.Names name ↔ c.current.filter (!·.isEmpty) = some name := by
  simp [Names, Option.filter_eq_some_iff]

theorem selection_of_unnamed (h : c.current.filter (!·.isEmpty) = none) :
    c.selection path = .ok none := by
  unfold selection active
  rw [h]
  rfl

theorem selection_of_entry {name : String} {context : Context} (hname : c.Names name)
    (hentry : c.entries.lookup name = some context) :
    c.selection path = .ok (context.instanceId.filter (!·.isEmpty)) := by
  unfold selection active
  rw [names_iff.mp hname]
  dsimp only
  rw [hentry]
  rfl

theorem selection_of_lacks {name : String} (h : c.Lacks name) :
    c.selection path = .error (.contextNotFound name path) := by
  unfold selection active
  rw [names_iff.mp h.1]
  dsimp only
  rw [h.2]
  rfl

theorem Names.unique {name name' : String} (h : c.Names name) (h' : c.Names name') :
    name = name' := Option.some.inj (h.1.symm.trans h'.1)

/-- Either the current context has no entry, or the selection is known, and it is what the entry
says unless that stands for nothing. -/
theorem selection_cases (c : Contexts) (path : String) :
    (∃ name, c.Lacks name ∧ c.selection path = .error (.contextNotFound name path)) ∨
      (∀ name, ¬c.Lacks name) ∧ ∃ selected, c.selection path = .ok selected ∧
        ∀ id, selected.filter (· ≠ noSelection) = some id ↔ c.Selects id := by
  cases hcurrent : c.current.filter (!·.isEmpty) with
  | none =>
      have hunnamed : ∀ name, ¬c.Names name := fun name hname => by
        rw [names_iff, hcurrent] at hname
        contradiction
      refine .inr ⟨fun name h => hunnamed name h.1, none, selection_of_unnamed hcurrent, fun id => ?_⟩
      exact iff_of_false nofun fun ⟨name, _, hname, _⟩ => hunnamed name hname
  | some name =>
      have hname : c.Names name := names_iff.mpr hcurrent
      cases hentry : c.entries.lookup name with
      | none =>
          have hlacks : c.Lacks name := ⟨hname, hentry⟩
          exact .inl ⟨name, hlacks, selection_of_lacks hlacks⟩
      | some context =>
          have hhas : ∀ other, ¬c.Lacks other := by
            intro other hlacks
            obtain ⟨hother, hnone⟩ := hlacks
            obtain rfl := hname.unique hother
            simp [hentry] at hnone
          refine .inr ⟨hhas, _, selection_of_entry hname hentry, fun id => ?_⟩
          -- The empty id is left out by the contexts, the other id that stands for none by the rows.
          have hfilter : (context.instanceId.filter (!·.isEmpty)).filter (· ≠ noSelection) = some id ↔
              context.instanceId = some id ∧ id ≠ "" ∧ id ≠ "-" := by
            simp only [Option.filter_eq_some_iff, Bool.not_eq_true', String.isEmpty_eq_false_iff,
              decide_eq_true_eq, and_assoc]
            exact Iff.rfl
          rw [hfilter]
          constructor
          · intro h
            exact ⟨name, context, hname, hentry, h⟩
          · rintro ⟨other, found, hother, hfound, h⟩
            obtain rfl := hname.unique hother
            obtain rfl := Option.some.inj (hentry.symm.trans hfound)
            exact h

theorem selection_eq_error_iff {e : SettingsError} :
    c.selection path = .error e ↔ ∃ name, c.Lacks name ∧ e = .contextNotFound name path := by
  constructor
  · intro h
    rcases selection_cases c path with ⟨name, hlacks, herror⟩ | ⟨-, selected, hok, -⟩
    · exact ⟨name, hlacks, Except.error.inj (h.symm.trans herror)⟩
    · rw [hok] at h
      contradiction
  · rintro ⟨name, hlacks, rfl⟩
    exact selection_of_lacks hlacks

/-- Nothing but the name of the current context and its entry decides what is selected. -/
theorem selection_congr (hcurrent : other.current = c.current)
    (hentry : ∀ name, c.Names name → other.entries.lookup name = c.entries.lookup name) :
    other.selection path = c.selection path := by
  unfold selection active
  rw [hcurrent]
  cases hname : c.current.filter (!·.isEmpty) with
  | none => rfl
  | some name =>
      dsimp only
      rw [hentry name (names_iff.mpr hname)]

/-- The selection of a run is that of the contexts that are found at their usual place. -/
theorem loadSelection_eq {env : Environment} {files : Files}
    (hpath : Settings.defaultPath env "KFLEET_CONTEXTS" "contexts" = .ok path)
    (hload : Contexts.ofFile path (files path) = .ok c) :
    loadSelection env files = c.selection path := by
  unfold loadSelection
  rw [hpath]
  change (do let contexts ← Contexts.ofFile path (files path); contexts.selection path) = _
  rw [hload]
  rfl

end Contexts

namespace Row

/-- The row of an instance, with the marker behind the name of the instance exactly if that is one of
the selected. -/
structure Marked (labels : Labels) (index : ClusterIndex) (selected : String → Prop) (i : Instance)
    (row : Row) : Prop where
  marked : selected i.id → row.name = i.name ++ " " ++ labels.marker
  unmarked : ¬selected i.id → row.name = i.name
  rest : { row with name := i.name } = ofInstance labels index none i

/-- Two rows differ in nothing but the name, and only if they are rows of certain instances. -/
structure DiffersAt (ids : String → Prop) (row other : Row) : Prop where
  rest : { other with name := row.name } = row
  same : ¬ids row.id → other = row

theorem marked_ofInstance (labels : Labels) (index : ClusterIndex) (selected : Option String)
    (i : Instance) :
    Marked labels index (selected = some ·) i (ofInstance labels index selected i) where
  marked h := if_pos h
  unmarked h := if_neg h
  rest := rfl

theorem marked_ofInstances (labels : Labels) (index : ClusterIndex) {selected : Option String}
    {selects : String → Prop} (items : List Instance)
    (h : ∀ id, selected.filter (· ≠ noSelection) = some id ↔ selects id) :
    List.Forall₂ (Marked labels index selects) items (ofInstances labels index selected items) := by
  have hselects : selects = (selected.filter (· ≠ noSelection) = some ·) := by
    funext id
    exact propext (h id).symm
  rw [hselects]
  unfold ofInstances
  rw [List.forall₂_map_right_iff, List.forall₂_same]
  exact fun i _ => marked_ofInstance labels index _ i

/-- Another selection changes the names of the instances that were selected or are selected now. -/
theorem differsAt_ofInstances (labels : Labels) (index : ClusterIndex) (a b : Option String)
    (items : List Instance) :
    List.Forall₂ (DiffersAt fun id => a = some id ∨ b = some id)
      (ofInstances labels index a items) (ofInstances labels index b items) := by
  unfold ofInstances
  rw [List.forall₂_map_left_iff, List.forall₂_map_right_iff, List.forall₂_same]
  refine fun i _ => ⟨rfl, fun hnot => ?_⟩
  obtain ⟨ha, hb⟩ := not_or.mp hnot
  have hunmarked : ∀ selected : Option String, selected ≠ some i.id →
      nameLabel labels (selected.filter (· ≠ noSelection)) i = i.name := by
    intro selected hne
    refine if_neg fun h => hne ?_
    exact (Option.filter_eq_some_iff.mp h).1
  simp only [ofInstance, hunmarked a ha, hunmarked b hb]

end Row

namespace Listing

/-- The rows of some instances with the selection that contexts make. -/
def selectedRows (labels : Labels) (index : ClusterIndex) (items : List Instance) (path : String)
    (c : Contexts) : Except SettingsError (List Row) :=
  (c.selection path).map fun selected => Row.ofInstances labels index selected items

/-- **The marker of the selected instance.** Rows fail to be made exactly if the current context has
no entry, which the error says. Else the rows with the marker are those of the instance that the
entry selects, if it does. Nothing else in the contexts matters, and another selection changes only
the names of the instances selected before and after it. -/
theorem marker_of_selection (labels : Labels) (index : ClusterIndex) (items : List Instance)
    (path : String) (c : Contexts) :
    let rows := selectedRows labels index items path
    (∀ e, rows c = .error e ↔ ∃ name, c.Lacks name ∧ e = .contextNotFound name path) ∧
      (∀ shown, rows c = .ok shown →
        List.Forall₂ (Row.Marked labels index c.Selects) items shown) ∧
      (∀ other : Contexts, other.current = c.current →
        (∀ name, c.Names name → other.entries.lookup name = c.entries.lookup name) →
        rows other = rows c) ∧
      (∀ (other : Contexts) (a b : Option String), c.selection path = .ok a →
        other.selection path = .ok b → ∃ before after, rows c = .ok before ∧ rows other = .ok after ∧
          List.Forall₂ (Row.DiffersAt fun id => a = some id ∨ b = some id) before after) ∧
      ∀ (env : Environment) (files : Files),
        Settings.defaultPath env "KFLEET_CONTEXTS" "contexts" = .ok path →
        Contexts.ofFile path (files path) = .ok c →
        (Contexts.loadSelection env files).map
          (fun selected => Row.ofInstances labels index selected items) = rows c := by
  refine ⟨fun e => ?_, fun shown h => ?_, fun other hcurrent hentry => ?_, ?_, ?_⟩
  · rw [← Contexts.selection_eq_error_iff]
    dsimp only [selectedRows]
    cases c.selection path with
    | error e' => simp [Except.map]
    | ok selected => simp [Except.map]
  · obtain ⟨selected, hselected, rfl⟩ := map_eq_ok_iff.mp h
    rcases Contexts.selection_cases c path with ⟨name, -, herror⟩ | ⟨-, selected', hok, hselects⟩
    · rw [herror] at hselected
      contradiction
    · obtain rfl := Except.ok.inj (hok.symm.trans hselected)
      exact Row.marked_ofInstances labels index items hselects
  · dsimp only [selectedRows]
    rw [Contexts.selection_congr hcurrent hentry]
  · intro other a b ha hb
    refine ⟨_, _, ?_, ?_, Row.differsAt_ofInstances labels index a b items⟩
    · dsimp only [selectedRows]
      rw [ha]
      rfl
    · dsimp only [selectedRows]
      rw [hb]
      rfl
  · intro env files hpath hload
    rw [Contexts.loadSelection_eq hpath hload]
    rfl

end Listing

end Roster
