import Roster.Proofs.Api.Calls
import Roster.Proofs.Command.Course
import Roster.Proofs.Listing.Course
import Roster.Proofs.Settings.Tokens
/-!
# Where a run sends its tokens

A run sends the requests for its instances and after them those for its clusters. Each of the two
begins with the one request that carries a token; what the servers redirect it to carries none. What
the command line gives for the cluster API leaves no trace in the requests for instances.
-/

namespace Roster

open Http Connection Tokens

namespace Machine

variable (m : Machine)

/-! ### Connecting -/

theorem connects_of_prepare {a : Arguments} {c : Client} (h : m.prepare a = .ok c) :
    ∃ config, Config.load m.environment m.files = .ok config ∧
      Connects m.environment config a.overrides c := by
  obtain ⟨config, hconfig, hconnect⟩ := prepare_eq_ok h
  exact ⟨config, hconfig, connects_of_connect hconnect⟩

/-! ### Requests of a listing -/

theorem handler_instances {c : Client} {params : ListParams} {t t₁ : Traffic}
    {answer : Except ApiError Page} (h : (m.handler c).instances params t = (answer, t₁)) :
    t₁ = t.after (c.listInstances t.network params) := (congrArg Prod.snd h).symm

theorem handler_clusters {c : Client} {params : ListParams} {t t₁ : Traffic}
    {answer : Except ApiError (List Cluster)}
    (h : (m.handler c).clusters params t = (answer, t₁)) :
    t₁ = t.after (c.listClusters t.network params) := (congrArg Prod.snd h).symm

theorem handler_selection {c : Client} {t t₁ : Traffic}
    {answer : Except SettingsError (Option String)}
    (h : (m.handler c).selection t = (answer, t₁)) : t₁ = t := (congrArg Prod.snd h).symm

theorem Traffic.sent_after {α : Type} (t : Traffic) (a : Client.Answer α) :
    (t.after a).sent = t.sent ++ a.sent := rfl

/-- A listing sends what its call for instances sends, and then, if a page was received that
references clusters, what the call for these sends over the network that the first has left. -/
theorem list_sent (a : Arguments) (c : Client) :
    let answer := c.listInstances m.network a.request.params
    ∃ clusters, (m.list a c).sent = answer.sent ++ clusters ∧
      (clusters = [] ∨ ∃ page params, answer.result = .ok page ∧
        Lookup.params? page.items = some params ∧
        clusters = (c.listClusters answer.network params).sent) := by
  have hcourse := Listing.course_run (m.handler c) ⟨m.network, []⟩ m.labels a.request
  unfold list
  generalize (Listing.plan m.labels a.request).run (m.handler c) ⟨m.network, []⟩ = run
    at hcourse ⊢
  cases hcourse with
  | refused hpage | document hpage _ | empty hpage _ _ =>
      obtain rfl := m.handler_instances hpage
      refine ⟨[], ?_, .inl rfl⟩
      simp only [Traffic.sent_after, List.nil_append, List.append_nil]
  | unselected hpage _ _ hselection | hosted hpage _ _ hselection _ =>
      obtain rfl := m.handler_instances hpage
      obtain rfl := m.handler_selection hselection
      refine ⟨[], ?_, .inl rfl⟩
      simp only [Traffic.sent_after, List.nil_append, List.append_nil]
  | @unresolved page _ params _ s₁ s₂ s₃ hpage _ _ hselection hparams hclusters
  | @resolved page _ params _ s₁ s₂ s₃ hpage _ _ hselection hparams hclusters =>
      have hreceived := congrArg Prod.fst hpage
      obtain rfl := m.handler_instances hpage
      obtain rfl := m.handler_selection hselection
      obtain rfl := m.handler_clusters hclusters
      refine ⟨_, ?_, .inr ⟨page, params, hreceived, hparams, rfl⟩⟩
      simp only [Traffic.sent_after, List.nil_append]
      rfl

/-! ### Requests of a run -/

/-- The requests that a run sends for its instances. -/
def instancesSent (words : List String) : List Sent :=
  match Arguments.parse words with
  | .error _ => []
  | .ok a =>
    match m.prepare a with
    | .error _ => []
    | .ok c => (c.listInstances m.network a.request.params).sent

/-- A run has these arguments and comes to connect. -/
def Connected (words : List String) (a : Arguments) : Prop :=
  Arguments.parse words = .ok a ∧ ∃ c, m.prepare a = .ok c

/-- These are the settings of a run and its login token. -/
def LogsIn (config : Config) (token : String) : Prop :=
  Config.load m.environment m.files = .ok config ∧
    loginToken (m.environment tokenVariable) config.token = some token

variable {m} {words : List String} {a : Arguments}

theorem sent_of_not_connected (h : ∀ a, ¬m.Connected words a) :
    (m.run words).sent = [] ∧ m.instancesSent words = [] := by
  unfold run instancesSent
  cases hparse : Arguments.parse words with
  | error e => exact ⟨rfl, rfl⟩
  | ok a =>
      cases hprepare : m.prepare a with
      | error e =>
          dsimp only
          rw [hprepare]
          exact ⟨rfl, rfl⟩
      | ok c => exact absurd ⟨hparse, c, hprepare⟩ (h a)

theorem Connected.sent (h : m.Connected words a) :
    ∃ config c, Config.load m.environment m.files = .ok config ∧
      Connects m.environment config a.overrides c ∧ (m.run words).sent = (m.list a c).sent ∧
      m.instancesSent words = (c.listInstances m.network a.request.params).sent := by
  obtain ⟨hparse, c, hprepare⟩ := h
  obtain ⟨config, hconfig, hconnects⟩ := m.connects_of_prepare hprepare
  refine ⟨config, c, hconfig, hconnects, ?_⟩
  unfold run instancesSent
  simp only [hparse, hprepare, and_self]

/-- A run that connects makes a call for instances with the login token, and it may make a call for
clusters with the token of the command line, if that is given. -/
theorem Connected.calls (h : m.Connected words a) :
    ∃ config token clusters, m.LogsIn config token ∧
      (m.run words).sent = m.instancesSent words ++ clusters ∧
      Client.Calls config.apiUrl Endpoint.instancesPath token a.request.params
        (m.instancesSent words) ∧
      ∃ params, Client.Calls (clusterBase config a.overrides) Endpoint.clustersPath
        ((given a.accessToken).getD token) params clusters := by
  obtain ⟨config, c, hconfig, hconnects, hsent, hinstances⟩ := h.sent
  obtain ⟨clusters, hlist, hclusters⟩ := m.list_sent a c
  refine ⟨config, c.token, clusters, ⟨hconfig, hconnects.login⟩, ?_, ?_, ?_⟩
  · rw [hsent, hinstances, hlist]
  · rw [hinstances, ← hconnects.instancesBase]
    exact Client.calls_list _ _ _ _ _ _
  · rcases hclusters with rfl | ⟨page, params, -, -, rfl⟩
    · exact ⟨.default, .inl rfl⟩
    · refine ⟨params, ?_⟩
      rw [Client.listClusters, hconnects.clustersBase, hconnects.clusterToken]
      exact Client.calls_list _ _ _ _ _ _

/-- What is said of the cluster API does not show in the requests for instances. -/
theorem Connected.instancesSent_eq {words' : List String} {a' : Arguments}
    (h : m.Connected words a) (h' : m.Connected words' a') (hrequest : a'.request = a.request) :
    m.instancesSent words' = m.instancesSent words := by
  obtain ⟨config, c, hconfig, hconnects, -, hinstances⟩ := h.sent
  obtain ⟨config', c', hconfig', hconnects', -, hinstances'⟩ := h'.sent
  obtain rfl : config = config' := Except.ok.inj (hconfig.symm.trans hconfig')
  have htoken : c.token = c'.token := Option.some.inj (hconnects.login.symm.trans hconnects'.login)
  rw [hinstances, hinstances', hrequest, Client.listInstances, Client.listInstances, htoken,
    hconnects.instancesBase, hconnects'.instancesBase]

/-- **Confinement of tokens.** A request that carries a token is the one for the instances, with the
login token, or the one for the clusters, with the token of the command line if that is not blank
and else the login token. All other requests are made by following redirections and carry none. Runs
that connect and differ in nothing but what the command line gives for the cluster API send the same
requests for instances. -/
theorem tokens_of_run (m : Machine) (words : List String) :
    (∀ s ∈ (m.run words).sent, ∀ token, s.Carries token →
      ∃ a config login, m.Connected words a ∧ m.LogsIn config login ∧
        (token = login ∧
            Client.Asks config.apiUrl Endpoint.instancesPath token a.request.params s ∨
          token = (given a.accessToken).getD login ∧
            ∃ params, Client.Asks (clusterBase config a.overrides) Endpoint.clustersPath token
              params s)) ∧
      (∃ clusters, (m.run words).sent = m.instancesSent words ++ clusters ∧
        Sent.OnlyFirst (m.instancesSent words) ∧ Sent.OnlyFirst clusters) ∧
      ∀ (words' : List String) (a a' : Arguments), m.Connected words a → m.Connected words' a' →
        a' = { a with accessToken := a'.accessToken, clusterApiUrl := a'.clusterApiUrl } →
        m.instancesSent words' = m.instancesSent words := by
  refine ⟨?_, ?_, ?_⟩
  · intro s hs token hcarries
    by_cases hconnected : ∃ a, m.Connected words a
    · obtain ⟨a, hconnected⟩ := hconnected
      obtain ⟨config, login, clusters, hlogin, hsent, hinstances, params, hclusters⟩ :=
        hconnected.calls
      refine ⟨a, config, login, hconnected, hlogin, ?_⟩
      rw [hsent] at hs
      rcases List.mem_append.mp hs with hs | hs
      · obtain ⟨rfl, hasks⟩ := hinstances.asks_of_carries hs hcarries
        exact .inl ⟨rfl, hasks⟩
      · obtain ⟨rfl, hasks⟩ := hclusters.asks_of_carries hs hcarries
        exact .inr ⟨rfl, params, hasks⟩
    · rw [(sent_of_not_connected (not_exists.mp hconnected)).1] at hs
      contradiction
  · by_cases hconnected : ∃ a, m.Connected words a
    · obtain ⟨a, hconnected⟩ := hconnected
      obtain ⟨config, login, clusters, -, hsent, hinstances, params, hclusters⟩ :=
        hconnected.calls
      exact ⟨clusters, hsent, hinstances.onlyFirst, hclusters.onlyFirst⟩
    · obtain ⟨hsent, hinstances⟩ := sent_of_not_connected (not_exists.mp hconnected)
      rw [hsent, hinstances]
      exact ⟨[], rfl, Sent.onlyFirst_nil, Sent.onlyFirst_nil⟩
  · intro words' a a' hconnected hconnected' hsame
    refine hconnected.instancesSent_eq hconnected' ?_
    rw [hsame]
    rfl

/-- Settings that point to an address, and a server that sends the client on and then answers with
an instance that names a cluster. -/
def clusterMachine : Machine where
  environment := Environment.empty.set "HOME" (some "/home")
  files path :=
    if path = "/home/.kfleet/config" then .bytes "api_url='http://[::1]'".toUTF8.toList
    else .missing
  network := .server
    [⟨302, some "/moved", []⟩,
      ⟨200, none, "\x7b\"items\":[\x7b\"id\":\"a\",\"cluster_id\":\"k\"\x7d]\x7d".toUTF8.toList⟩,
      ⟨200, none, "\x7b\"items\":[]\x7d".toUTF8.toList⟩]

example :
    let m := { clusterMachine with
      environment := clusterMachine.environment.set tokenVariable (some "one") }
    (m.run ["kafka", "list", "--access-token", "two", "--cluster-mgmt-api-url",
        "http://[::2]:81/p"]).sent.map (fun s => (s.host, s.line, s.header "authorization")) =
      [("[::1]", "GET /api/kafkas_mgmt/v1/kafkas?page=1&size=10", some "Bearer one"),
        ("[::1]", "GET /moved", none),
        ("[::2]:81", "GET /p/api/clusters_mgmt/v1/clusters?page=1&size=1&search=id+%3D+%27k%27",
          some "Bearer two")] := by
  decide +kernel

end Machine

end Roster
