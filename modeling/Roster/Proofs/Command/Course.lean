import Roster.Command.Run
import Roster.Proofs.Listing.Output
import Roster.Proofs.Outcome
/-!
# The courses of a run

A run is refused by its command line, refused when it prepares to list, or it lists. The rest
reaches a run only through `course_run`, and a listing only through `list_outcome`.
-/

namespace Roster.Machine

variable (m : Machine)

/-- The ways through a run. -/
inductive Course (words : List String) : Run → Prop
  | usage {e : UsageError} (hparse : Arguments.parse words = .error e) :
      Course words (refuse (.usage e))
  | refused {a : Arguments} {e : RunError} (hparse : Arguments.parse words = .ok a)
      (hprepare : m.prepare a = .error e) : Course words (refuse e)
  | listed {a : Arguments} {c : Client} (hparse : Arguments.parse words = .ok a)
      (hprepare : m.prepare a = .ok c) : Course words (m.list a c)

theorem course_run (words : List String) : m.Course words (m.run words) := by
  unfold run
  cases hparse : Arguments.parse words with
  | error e => exact .usage hparse
  | ok a =>
      dsimp only
      cases hprepare : m.prepare a with
      | error e => exact .refused hparse hprepare
      | ok c => exact .listed hparse hprepare

/-! ### Preparing -/

variable {m} {a : Arguments}

theorem prepare_of_invalid (h : Search.valid a.request.search = false) :
    m.prepare a = .error (.search a.request.search) := by
  unfold prepare
  rw [h]
  rfl

theorem prepare_of_settingsError (h : Search.valid a.request.search = true) {e : SettingsError}
    (hconfig : Config.load m.environment m.files = .error e) :
    m.prepare a = .error (.settings e) := by
  unfold prepare
  rw [h, hconfig]
  rfl

theorem prepare_of_config (h : Search.valid a.request.search = true) {config : Config}
    (hconfig : Config.load m.environment m.files = .ok config) :
    m.prepare a = (Connection.connect m.environment config a.overrides).mapError .api := by
  unfold prepare
  rw [h, hconfig]
  rfl

/-- A run that comes to list has settings and has connected with them. -/
theorem prepare_eq_ok {c : Client} (h : m.prepare a = .ok c) :
    ∃ config, Config.load m.environment m.files = .ok config ∧
      Connection.connect m.environment config a.overrides = .ok c := by
  cases hvalid : Search.valid a.request.search with
  | false =>
      rw [prepare_of_invalid hvalid] at h
      contradiction
  | true =>
      cases hconfig : Config.load m.environment m.files with
      | error e =>
          rw [prepare_of_settingsError hvalid hconfig] at h
          contradiction
      | ok config =>
          rw [prepare_of_config hvalid hconfig] at h
          exact ⟨config, rfl, mapError_eq_ok_iff.mp h⟩

/-- A listing of a run has printed all that it was to print, or nothing, and then it ends with the
error of the first step that failed. -/
theorem list_outcome (m : Machine) (a : Arguments) (c : Client) :
    ((m.list a c).result = .ok () ∧
        Listing.Complete (m.handler c) m.labels a.request ⟨m.network, []⟩ (m.list a c).out) ∨
      ∃ e, (m.list a c).result = .error (.ofPlan e) ∧ (m.list a c).out = "" ∧
        Listing.FirstFailure (m.handler c) a.request ⟨m.network, []⟩ e := by
  have hlisting := Listing.complete_or_firstFailure (m.handler c) m.labels a.request ⟨m.network, []⟩
  unfold list
  generalize (Listing.plan m.labels a.request).run (m.handler c) ⟨m.network, []⟩ = run
    at hlisting ⊢
  dsimp only
  rcases hlisting with ⟨hresult, hcomplete⟩ | ⟨e, hresult, hout, hfirst⟩
  · rw [hresult]
    exact .inl ⟨rfl, hcomplete⟩
  · rw [hresult]
    exact .inr ⟨e, rfl, hout, hfirst⟩

end Roster.Machine
