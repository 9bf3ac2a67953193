import Roster.Proofs.Api.Address
import Roster.Proofs.Command.Course
import Roster.Proofs.Fleet.Search
/-!
# What is refused before anything is sent

The command line, the search term, the settings, the token and the addresses are judged before the
first request. No later step can come back to them: the calls of a client that has connected fail in
other ways, and so does reading the selection.
-/

namespace Roster.Machine

/-- Errors of what a run is given: of its command line, its search term, its settings, its token and
its addresses. -/
inductive BadInput (m : Machine) : RunError → Prop
  | usage (e : UsageError) : BadInput m (.usage e)
  | search (term : String) : BadInput m (.search term)
  | settings {e : SettingsError} (h : Config.load m.environment m.files = .error e) :
      BadInput m (.settings e)
  | api {e : ApiError} (h : e.BeforeRequests) : BadInput m (.api e)

variable {m : Machine}

/-- A listing does not fail with an error of what the run is given. -/
theorem not_badInput_of_firstFailure {a : Arguments} {c : Client}
    (hprepare : m.prepare a = .ok c) {t : Traffic} {e : Plan.Error SettingsError}
    (h : Listing.FirstFailure (m.handler c) a.request t e) : ¬m.BadInput (.ofPlan e) := by
  obtain ⟨config, hconfig, hconnect⟩ := prepare_eq_ok hprepare
  have hbuilt := Connection.built_of_connect hconnect
  intro hbad
  cases h with
  | instances hpage =>
      cases hbad with
      | api hbefore =>
          exact hbuilt.not_beforeRequests_instances (congrArg Prod.fst hpage) hbefore
  | selection _ _ _ hselection =>
      cases hbad with
      | settings hload => simp [hconfig] at hload
  | clusters _ _ _ _ _ hclusters =>
      cases hbad with
      | api hbefore =>
          exact hbuilt.not_beforeRequests_clusters (congrArg Prod.fst hclusters) hbefore

/-- A term with a character that is not allowed is refused, whatever else there is. -/
theorem run_of_bad_term (m : Machine) {words : List String} {a : Arguments} {term : String}
    (hparse : Arguments.parse words = .ok a) (hterm : a.search = some term)
    (hbad : ∃ c ∈ term.toList, c ∉ Search.alphabet) :
    m.run words = refuse (.search term) := by
  have hsearch : a.request.search = term := by
    simp only [Arguments.request, hterm, Option.getD_some]
  have hinvalid : Search.valid a.request.search = false := by
    rw [hsearch, Bool.eq_false_iff]
    intro hvalid
    obtain ⟨c, hc, hnot⟩ := hbad
    exact hnot (Search.valid_iff.mp hvalid c hc)
  unfold run
  rw [hparse]
  dsimp only
  rw [prepare_of_invalid hinvalid, hsearch]

/-- **Bad input is refused before anything is sent.** A run that ends with an error of what it is
given has sent nothing. No call of a client that could be made fails for want of an address. And a
search term with a character that is not allowed ends a run that can be read, with an error that
shows the term, whatever the variables, the files and the network are. -/
theorem bad_input_sends_nothing (m : Machine) (words : List String) :
    (∀ e, (m.run words).result = .error e → m.BadInput e → (m.run words).sent = []) ∧
      (∀ c : Client, c.Built → ∀ (net : Http.Network) (params : ListParams) (base : String)
        (reason : Url.Invalid),
        (c.listInstances net params).result ≠ .error (.invalidUrl base reason) ∧
          (c.listClusters net params).result ≠ .error (.invalidUrl base reason)) ∧
      ∀ (a : Arguments) (term : String), Arguments.parse words = .ok a → a.search = some term →
        (∃ c ∈ term.toList, c ∉ Search.alphabet) →
        m.run words = ⟨"", .error (.search term), []⟩ ∧
          (RunError.search term).message = "Invalid search term \"" ++ term ++
            "\": only letters, numbers, '-', '_' and '%' are allowed" := by
  refine ⟨?_, ?_, ?_⟩
  · intro e hresult hbad
    have hcourse := m.course_run words
    generalize m.run words = run at hcourse hresult ⊢
    cases hcourse with
    | usage _ => rfl
    | refused _ _ => rfl
    | @listed a c _ hprepare =>
        exfalso
        rcases m.list_outcome a c with ⟨hok, -⟩ | ⟨e', herror, -, hfirst⟩
        · simp [hok] at hresult
        · obtain rfl : RunError.ofPlan e' = e := Except.error.inj (herror.symm.trans hresult)
          exact not_badInput_of_firstFailure hprepare hfirst hbad
  · intro c hbuilt net params base reason
    constructor
    · intro herror
      exact hbuilt.not_beforeRequests_instances herror (.invalidUrl base reason)
    · intro herror
      exact hbuilt.not_beforeRequests_clusters herror (.invalidUrl base reason)
  · intro a term hparse hterm hbad
    exact ⟨m.run_of_bad_term hparse hterm hbad, rfl⟩

end Roster.Machine
