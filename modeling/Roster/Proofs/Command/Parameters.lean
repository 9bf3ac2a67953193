import Roster.Proofs.Api.Wire
import Roster.Proofs.Command.Arguments
import Roster.Proofs.Command.Tokens
import Roster.Proofs.Fleet.Lookup
import Roster.Proofs.Fleet.Search
/-!
# What a run asks for

What a run asks the servers for comes from its words and from the page that it receives, and nowhere is
it let through unchecked. A count is in its range by its type, a term has passed its check before there
is a client, and there is no call for clusters unless one is referenced.
-/

namespace Roster

/-- Page and size are in the range of the servers. -/
def ListParams.InRange (params : ListParams) : Prop :=
  (1 ≤ params.page ∧ params.page ≤ 4294967295) ∧ 1 ≤ params.size ∧ params.size ≤ 4294967295

/-- There is a filter for a term unless that is empty: it asks for the term in five fields. The term
has only letters and digits of ASCII, hyphens, underscores and percent signs. -/
structure Search.Filters (term : String) (filter : Option String) : Prop where
  none_iff : filter = none ↔ term = ""
  clauses : ∀ predicate, filter = some predicate →
    predicate = " or ".intercalate
      ["name like %" ++ term ++ "%", "owner like %" ++ term ++ "%",
        "cloud_provider like %" ++ term ++ "%", "region like %" ++ term ++ "%",
        "status like %" ++ term ++ "%"]
  allowed : ∀ c ∈ term.toList, c ∈ alphabet

/-- The instances are asked for as the command line says. -/
structure Arguments.Asks (said : List (ListOption × String)) (params : ListParams) : Prop where
  inRange : params.InRange
  page : Counts said .page 1 params.page
  limit : Counts said .limit 10 params.size
  search : Search.Filters ((said.lookup .search).getD "") params.search

/-- The clusters that a page references are asked for, all on one page. -/
structure Lookup.Asks (received : Page) (params : ListParams) : Prop where
  inRange : params.InRange
  page : params.page = 1
  size : params.size = min (received.items.filterMap (·.cluster)).dedup.length 4294967295

theorem Search.filters_query {term : String} (hvalid : valid term) :
    Filters term (query term) := by
  refine ⟨query_eq_none_iff, ?_, valid_iff.mp hvalid⟩
  intro predicate hquery
  have hne : term ≠ "" := by
    intro hempty
    rw [query_eq_none_iff.mpr hempty] at hquery
    contradiction
  rw [query_of_ne_empty hne] at hquery
  exact (Option.some.inj hquery).symm

theorem Lookup.asks_of_params {received : Page} {params : ListParams}
    (h : params? received.items = some params) : Asks received params := by
  obtain ⟨hne, rfl⟩ := params?_eq_some h
  have hpos : 0 < (ids received.items).length := List.length_pos_of_ne_nil hne
  refine ⟨?_, rfl, ?_⟩
  · dsimp only [ListParams.InRange]
    omega
  · rw [← length_ids]

namespace Machine

variable {m : Machine} {a : Arguments}

theorem valid_of_prepare {c : Client} (h : m.prepare a = .ok c) : Search.valid a.request.search := by
  by_contra hinvalid
  rw [prepare_of_invalid (Bool.eq_false_of_not_eq_true hinvalid)] at h
  contradiction

theorem asks_of_prepare {said : List (ListOption × String)} {c : Client}
    (honce : (said.map Prod.fst).Nodup) (hset : Arguments.default.setAll said = .ok a)
    (h : m.prepare a = .ok c) : Arguments.Asks said a.request.params where
  inRange := ⟨⟨a.page.one_le, a.page.le_max⟩, a.limit.one_le, a.limit.le_max⟩
  page := Arguments.page_of_setAll honce hset
  limit := Arguments.limit_of_setAll honce hset
  search := by
    rw [← Arguments.search_of_setAll honce hset]
    exact Search.filters_query (valid_of_prepare h)

/-- **The parameters of a run.** A run that comes to send anything makes a call for instances with the
page, the size and the term of its command line, where each option has at most one value. If a page is
received and references clusters, the run may then make a call for these, with the first page and room
for all of them. The first request of a call says what it is for behind the parameters of the base
address; the others are made by following redirections. -/
theorem parameters_of_run (m : Machine) (words : List String) :
    (m.run words).sent = [] ∨
      ∃ a c said config clusters,
        Arguments.parse words = .ok a ∧ m.prepare a = .ok c ∧
        Arguments.Given words said ∧ (∀ other, Arguments.Given words other → other = said) ∧
        Config.load m.environment m.files = .ok config ∧
        Arguments.Asks said a.request.params ∧
        Client.SaysFirst config.apiUrl Endpoint.instancesPath a.request.params
          (c.listInstances m.network a.request.params).sent ∧
        (m.run words).sent = (c.listInstances m.network a.request.params).sent ++ clusters ∧
        (clusters = [] ∨ ∃ net page params,
          (c.listInstances m.network a.request.params).result = .ok page ∧
          Lookup.Asks page params ∧
          clusters = (c.listClusters net params).sent ∧
          Client.SaysFirst (Connection.clusterBase config a.overrides) Endpoint.clustersPath params
            clusters) := by
  by_cases hconnected : ∃ a, m.Connected words a
  · obtain ⟨a, hparse, c, hprepare⟩ := hconnected
    obtain ⟨said, hgiven, hset⟩ := Arguments.exists_given_of_parse hparse
    obtain ⟨config, hconfig, hconnects⟩ := m.connects_of_prepare hprepare
    obtain ⟨clusters, hlist, hclusters⟩ := m.list_sent a c
    have hsent : (m.run words).sent = (m.list a c).sent := by
      unfold run
      simp only [hparse, hprepare]
    refine .inr ⟨a, c, said, config, clusters, hparse, hprepare, hgiven,
      fun other hother => hother.unique hgiven, hconfig, asks_of_prepare hgiven.1 hset hprepare, ?_,
      hsent.trans hlist, ?_⟩
    · rw [← hconnects.instancesBase]
      exact Client.saysFirst_list _ _ _ _ _ _
    · rcases hclusters with rfl | ⟨page, params, hpage, hparams, rfl⟩
      · exact .inl rfl
      · refine .inr ⟨_, page, params, hpage, Lookup.asks_of_params hparams, rfl, ?_⟩
        rw [← hconnects.clustersBase]
        exact Client.saysFirst_list _ _ _ _ _ _
  · exact .inl (sent_of_not_connected (not_exists.mp hconnected)).1

end Machine

end Roster
