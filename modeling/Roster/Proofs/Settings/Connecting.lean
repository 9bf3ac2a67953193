import Roster.Proofs.Settings.Tokens
/-!
# How connecting comes out

Connecting is decided in one order: there has to be a login token, then the instance API needs an
address, then the cluster API, and then the proxy is looked at. The first of these that is wrong is
what the user is told. `Comes` lists the ways it can come out with everything that each of them
takes, and connecting comes out in exactly that way.
-/

namespace Roster

/-! ### The first token that counts -/

namespace Tokens

/-- A text with something else in it than white space. -/
def Counts (s : String) : Prop := ∃ c ∈ s.toList, Text.isBlank c = false

/-- The first of some tokens that counts, as it was given. -/
inductive First : List (Option String) → String → Prop
  | here {token : String} {rest : List (Option String)} (hcounts : Counts token) :
      First (some token :: rest) token
  | later {skipped : Option String} {token : String} {rest : List (Option String)}
      (hskipped : ∀ s, skipped = some s → ¬Counts s) (hrest : First rest token) :
      First (skipped :: rest) token

variable {s token : String} {candidates : List (Option String)}

theorem counts_iff : Counts s ↔ Text.allBlank s = false := by
  simp [Counts, Text.allBlank]

theorem given_eq_none_iff {candidate : Option String} :
    given candidate = none ↔ ∀ s, candidate = some s → ¬Counts s := by
  cases candidate with
  | none => simp [given]
  | some s => simp [given, counts_iff]

theorem first_eq_some_iff : first candidates = some token ↔ First candidates token := by
  constructor
  · intro h
    induction candidates with
    | nil => contradiction
    | cons candidate rest ih =>
        rw [first_cons] at h
        rcases Option.or_eq_some_iff.mp h with hgiven | ⟨hnone, hrest⟩
        · obtain ⟨rfl, hblank⟩ := given_eq_some_iff.mp hgiven
          exact .here (counts_iff.mpr hblank)
        · exact .later (given_eq_none_iff.mp hnone) (ih hrest)
  · intro h
    induction h with
    | here hcounts => rw [first_cons, given_some (counts_iff.mp hcounts), Option.some_or]
    | later hskipped _ ih => rw [first_cons, given_eq_none_iff.mpr hskipped, Option.none_or, ih]

theorem loginToken_eq_some_iff {environment config : Option String} :
    loginToken environment config = some token ↔ First [environment, config] token := by
  rw [← first_eq_some_iff, first_pair, loginToken]

theorem loginToken_eq_none_iff {environment config : Option String} :
    loginToken environment config = none ↔
      ∀ s, environment = some s ∨ config = some s → ¬Counts s := by
  rw [loginToken, Option.or_eq_none_iff, given_eq_none_iff, given_eq_none_iff]
  simp only [or_imp, forall_and]

/-- A token of its own comes before one that counts anyway. -/
theorem first_getD (flag : Option String) (hcounts : Counts token) :
    First [flag, some token] ((given flag).getD token) := by
  rw [← first_eq_some_iff, first_pair, given_some (counts_iff.mp hcounts)]
  cases given flag <;> rfl

theorem First.counts (h : First candidates token) : Counts token := by
  induction h with
  | here hcounts => exact hcounts
  | later _ _ ih => exact ih

theorem First.unique {other : String} (h : First candidates token) (h' : First candidates other) :
    token = other :=
  Option.some.inj ((first_eq_some_iff.mpr h).symm.trans (first_eq_some_iff.mpr h'))

end Tokens

/-! ### The first proxy variable that is set -/

namespace Http.Proxy

/-- The first variable that is set asks for a proxy of a kind, by the value it has. -/
def FirstSet (env : Environment) (kind value : String) : Prop :=
  ∃ before name after, names = before ++ (name, kind) :: after ∧ (∀ p ∈ before, env p.1 = none) ∧
    env name = some value

/-- Two environments with the same value for each variable in front of which none is set. -/
def SameFirst (env other : Environment) : Prop :=
  ∀ before name kind after, names = before ++ (name, kind) :: after →
    (∀ p ∈ before, env p.1 = none) → other name = env name

variable {env other : Environment} {kind value : String}

theorem chosen?_eq_some_iff : chosen? env = some (kind, value) ↔ FirstSet env kind value := by
  rw [chosen?, List.findSome?_eq_some_iff]
  constructor
  · rintro ⟨before, ⟨name, kind'⟩, after, hnames, hvalue, hbefore⟩
    obtain ⟨v, hv, heq⟩ := Option.map_eq_some_iff.mp hvalue
    obtain ⟨rfl, rfl⟩ := Prod.mk.inj heq
    exact ⟨before, name, after, hnames, fun p hp => Option.map_eq_none_iff.mp (hbefore p hp), hv⟩
  · rintro ⟨before, name, after, hnames, hbefore, hvalue⟩
    refine ⟨before, (name, kind), after, hnames, by simp [hvalue], fun p hp => ?_⟩
    simp [hbefore p hp]

theorem chosen?_congr (h : SameFirst env other) : chosen? other = chosen? env := by
  -- As long as nothing is set, the next variable has one value in both.
  have hfrom : ∀ before after, names = before ++ after → (∀ p ∈ before, env p.1 = none) →
      after.findSome? (fun p => (other p.1).map fun value => (p.2, value)) =
        after.findSome? fun p => (env p.1).map fun value => (p.2, value) := by
    intro before after
    induction after generalizing before with
    | nil => exact fun _ _ => rfl
    | cons p after ih =>
        intro hnames hbefore
        have hsame := h before p.1 p.2 after hnames hbefore
        rw [List.findSome?_cons, List.findSome?_cons, hsame]
        cases hvalue : env p.1 with
        | some value => rfl
        | none =>
            apply ih (before ++ [p]) (by simp [hnames])
            intro q hq
            rcases List.mem_append.mp hq with hq | hq
            · exact hbefore q hq
            · rw [List.mem_singleton.mp hq, hvalue]
  exact hfrom [] names rfl nofun

end Http.Proxy

/-! ### What is checked of a client -/

namespace Client

variable {env : Environment} {base path kind value : String}

theorem checkBase_of_ok {url : Url} (h : Endpoint.url base path .default = .ok url) :
    checkBase base path = .ok () := by
  rw [checkBase, h]

theorem checkBase_of_error {reason : Url.Invalid}
    (h : Endpoint.url base path .default = .error reason) :
    checkBase base path = .error (.invalidUrl base reason) := by
  rw [checkBase, h]

/-- What is said of a proxy that makes no sense. -/
def proxyRefusal (kind : String) : ApiError :=
  .transport ("Failed to create " ++ kind ++ " proxy: Malformed proxy")

theorem checkProxy_of_invalid (hset : Http.Proxy.FirstSet env kind value)
    (hinvalid : Http.Proxy.isValid value = false) :
    checkProxy env = .error (proxyRefusal kind) := by
  simp [checkProxy, Http.Proxy.refusal?, Http.Proxy.chosen?_eq_some_iff.mpr hset, hinvalid,
    proxyRefusal]

theorem checkProxy_of_valid
    (hvalid : ∀ kind value, Http.Proxy.FirstSet env kind value → Http.Proxy.isValid value = true) :
    checkProxy env = .ok () := by
  cases hchosen : Http.Proxy.chosen? env with
  | none => simp [checkProxy, Http.Proxy.refusal?, hchosen]
  | some p =>
      have hp := hvalid p.1 p.2 (Http.Proxy.chosen?_eq_some_iff.mp hchosen)
      simp [checkProxy, Http.Proxy.refusal?, hchosen, hp]

end Client

/-! ### Connecting -/

namespace Connection

open Tokens

/-- Which address is taken for the cluster API: that of the command line unless it is empty, else
that of the settings, else the address of the instance API. -/
inductive Base (config : Config) (overrides : Overrides) : String → Prop
  | flag {url : String} (hflag : overrides.clusterApiUrl = some url) (hne : url ≠ "") :
      Base config overrides url
  | config {url : String} (hflag : ∀ s, overrides.clusterApiUrl = some s → s = "")
      (hconfig : config.clusterApiUrl = some url) : Base config overrides url
  | instances (hflag : ∀ s, overrides.clusterApiUrl = some s → s = "")
      (hconfig : config.clusterApiUrl = none) : Base config overrides config.apiUrl

variable {env : Environment} {config : Config} {overrides : Overrides}

theorem base_clusterBase (config : Config) (overrides : Overrides) :
    Base config overrides (clusterBase config overrides) := by
  unfold clusterBase
  cases hflag : overrides.clusterApiUrl.filter (!·.isEmpty) with
  | some url =>
      obtain ⟨hurl, hne⟩ := Option.filter_eq_some_iff.mp hflag
      exact .flag hurl (by simpa using hne)
  | none =>
      have hempty : ∀ s, overrides.clusterApiUrl = some s → s = "" := by
        simpa [Option.filter_eq_none_iff] using hflag
      rw [Option.getD_none, Config.effectiveClusterUrl]
      cases hconfig : config.clusterApiUrl with
      | some url => exact .config hempty hconfig
      | none => exact .instances hempty hconfig

theorem Base.eq_clusterBase {base : String} (h : Base config overrides base) :
    base = clusterBase config overrides := by
  have hempty : (∀ s, overrides.clusterApiUrl = some s → s = "") →
      overrides.clusterApiUrl.filter (!·.isEmpty) = none := by
    simp [Option.filter_eq_none_iff]
  cases h with
  | flag hflag hne =>
      rw [clusterBase, hflag, Option.filter_some, if_pos (by simpa using hne), Option.getD_some]
  | config hflag hconfig => simp [clusterBase, hempty hflag, Config.effectiveClusterUrl, hconfig]
  | instances hflag hconfig =>
      simp [clusterBase, hempty hflag, Config.effectiveClusterUrl, hconfig]

/-- A base with which a list has an address. -/
def Leads (base path : String) : Prop := ∃ url, Endpoint.url base path .default = .ok url

/-- The ways that connecting can come out, the earlier ones first. -/
inductive Comes (env : Environment) (config : Config) (overrides : Overrides) :
    Except ApiError Client → Prop
  | missingToken (hlogin : ∀ s, env tokenVariable = some s ∨ config.token = some s → ¬Counts s) :
      Comes env config overrides (.error .missingToken)
  | instancesUrl {token : String} {reason : Url.Invalid}
      (hlogin : First [env tokenVariable, config.token] token)
      (hinstances : Endpoint.url config.apiUrl Endpoint.instancesPath .default = .error reason) :
      Comes env config overrides (.error (.invalidUrl config.apiUrl reason))
  | clustersUrl {token base : String} {reason : Url.Invalid}
      (hlogin : First [env tokenVariable, config.token] token)
      (hinstances : Leads config.apiUrl Endpoint.instancesPath)
      (hbase : Base config overrides base)
      (hclusters : Endpoint.url base Endpoint.clustersPath .default = .error reason) :
      Comes env config overrides (.error (.invalidUrl base reason))
  | proxy {token base kind value : String}
      (hlogin : First [env tokenVariable, config.token] token)
      (hinstances : Leads config.apiUrl Endpoint.instancesPath)
      (hbase : Base config overrides base) (hclusters : Leads base Endpoint.clustersPath)
      (hset : Http.Proxy.FirstSet env kind value) (hinvalid : Http.Proxy.isValid value = false) :
      Comes env config overrides (.error (Client.proxyRefusal kind))
  | connected {token base cluster : String}
      (hlogin : First [env tokenVariable, config.token] token)
      (hinstances : Leads config.apiUrl Endpoint.instancesPath)
      (hbase : Base config overrides base) (hclusters : Leads base Endpoint.clustersPath)
      (hvalid : ∀ kind value, Http.Proxy.FirstSet env kind value →
        Http.Proxy.isValid value = true)
      (hcluster : First [overrides.token, some token] cluster) :
      Comes env config overrides (.ok ⟨config.apiUrl, base, token, some cluster⟩)

theorem connect_of_first {token : String}
    (hlogin : First [env tokenVariable, config.token] token) :
    connect env config overrides =
      (Client.checks env config.apiUrl (clusterBase config overrides)).map fun _ =>
        loggedIn config overrides token :=
  connect_of_login (loginToken_eq_some_iff.mpr hlogin)

/-- Connecting comes out in one of the ways. -/
theorem comes_connect (env : Environment) (config : Config) (overrides : Overrides) :
    Comes env config overrides (connect env config overrides) := by
  cases htoken : loginToken (env tokenVariable) config.token with
  | none =>
      rw [connect_of_no_login htoken]
      exact .missingToken (loginToken_eq_none_iff.mp htoken)
  | some token =>
      have hlogin := loginToken_eq_some_iff.mp htoken
      have hbase := base_clusterBase config overrides
      rw [connect_of_first hlogin, Client.checks]
      cases hinstances : Endpoint.url config.apiUrl Endpoint.instancesPath .default with
      | error reason =>
          rw [Client.checkBase_of_error hinstances]
          exact .instancesUrl hlogin hinstances
      | ok instances =>
          rw [Client.checkBase_of_ok hinstances]
          cases hclusters :
              Endpoint.url (clusterBase config overrides) Endpoint.clustersPath .default with
          | error reason =>
              rw [Client.checkBase_of_error hclusters]
              exact .clustersUrl hlogin ⟨instances, hinstances⟩ hbase hclusters
          | ok clusters =>
              rw [Client.checkBase_of_ok hclusters]
              by_cases hvalid : ∀ kind value, Http.Proxy.FirstSet env kind value →
                  Http.Proxy.isValid value = true
              · rw [Client.checkProxy_of_valid hvalid]
                exact .connected hlogin ⟨instances, hinstances⟩ hbase ⟨clusters, hclusters⟩ hvalid
                  (first_getD overrides.token hlogin.counts)
              · push Not at hvalid
                obtain ⟨kind, value, hset, hinvalid⟩ := hvalid
                have hinvalid' := Bool.eq_false_iff.mpr hinvalid
                rw [Client.checkProxy_of_invalid hset hinvalid']
                exact .proxy hlogin ⟨instances, hinstances⟩ hbase ⟨clusters, hclusters⟩ hset
                  hinvalid'

/-- The ways are apart from each other, so what they take says how connecting comes out. -/
theorem Comes.connect_eq {r : Except ApiError Client} (h : Comes env config overrides r) :
    connect env config overrides = r := by
  cases h with
  | missingToken hlogin => exact connect_of_no_login (loginToken_eq_none_iff.mpr hlogin)
  | instancesUrl hlogin hinstances =>
      rw [connect_of_first hlogin, Client.checks, Client.checkBase_of_error hinstances]
      rfl
  | clustersUrl hlogin hinstances hbase hclusters =>
      obtain ⟨_, hinstances⟩ := hinstances
      obtain rfl := hbase.eq_clusterBase
      rw [connect_of_first hlogin, Client.checks, Client.checkBase_of_ok hinstances,
        Client.checkBase_of_error hclusters]
      rfl
  | proxy hlogin hinstances hbase hclusters hset hinvalid =>
      obtain ⟨_, hinstances⟩ := hinstances
      obtain ⟨_, hclusters⟩ := hclusters
      obtain rfl := hbase.eq_clusterBase
      rw [connect_of_first hlogin, Client.checks, Client.checkBase_of_ok hinstances,
        Client.checkBase_of_ok hclusters, Client.checkProxy_of_invalid hset hinvalid]
      rfl
  | connected hlogin hinstances hbase hclusters hvalid hcluster =>
      obtain ⟨_, hinstances⟩ := hinstances
      obtain ⟨_, hclusters⟩ := hclusters
      obtain rfl := hbase.eq_clusterBase
      obtain rfl := hcluster.unique (first_getD overrides.token hlogin.counts)
      rw [connect_of_first hlogin, Client.checks, Client.checkBase_of_ok hinstances,
        Client.checkBase_of_ok hclusters, Client.checkProxy_of_valid hvalid]
      rfl

/-- **How connecting comes out.** It comes out in exactly the way whose conditions hold. Without a
login token that counts nothing else matters, also not the token of the command line. A client that
connects has the login token and the token for the cluster API as they were given, and no proxy
variable behind the first that is set has any influence. -/
theorem outcome_of_connect (env : Environment) (config : Config) (overrides : Overrides) :
    (∀ r, connect env config overrides = r ↔ Comes env config overrides r) ∧
      (connect env config overrides = .error .missingToken ↔
        ∀ s, env tokenVariable = some s ∨ config.token = some s → ¬Counts s) ∧
      (∀ c, connect env config overrides = .ok c →
        First [env tokenVariable, config.token] c.token ∧
          First [overrides.token, some c.token] c.effectiveClusterToken) ∧
      ∀ other : Environment, other tokenVariable = env tokenVariable →
        Http.Proxy.SameFirst env other →
        connect other config overrides = connect env config overrides := by
  have hcomes : ∀ r, connect env config overrides = r ↔ Comes env config overrides r := fun r =>
    ⟨fun h => h ▸ comes_connect env config overrides, Comes.connect_eq⟩
  refine ⟨hcomes, ?_, ?_, ?_⟩
  · rw [hcomes]
    constructor
    · rintro ⟨hlogin⟩
      assumption
    · exact .missingToken
  · intro c h
    cases (hcomes _).mp h with
    | connected hlogin _ _ _ _ hcluster => exact ⟨hlogin, hcluster⟩
  · intro other htoken hsame
    have hchecks : ∀ instances clusters,
        Client.checks other instances clusters = Client.checks env instances clusters := by
      intro instances clusters
      rw [Client.checks, Client.checks, Client.checkProxy, Client.checkProxy, Http.Proxy.refusal?,
        Http.Proxy.refusal?, Http.Proxy.chosen?_congr hsame]
    cases hlogin : loginToken (env tokenVariable) config.token with
    | none => rw [connect_of_no_login hlogin, connect_of_no_login (htoken ▸ hlogin)]
    | some token =>
        rw [connect_of_login hlogin, connect_of_login (htoken ▸ hlogin), hchecks]

end Connection

end Roster
