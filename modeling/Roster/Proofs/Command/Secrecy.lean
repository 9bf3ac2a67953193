import Mathlib.Data.List.Forall2
import Roster.Command.Report
import Roster.Proofs.Api.Twin
import Roster.Proofs.Command.Tokens
import Roster.Proofs.Listing.Handlers
import Roster.Proofs.Settings.Login
/-!
# The login token is a secret

Two runs that differ in nothing but the login token of the environment cannot be told apart by what
they print, how they end, and what they ask the servers for. What tells them apart is the
authorization of the requests that carry the token.

There is one exception. A command line may give the token of one of the runs for the cluster API.
This run then asks for its clusters with that token, and so does the other.
-/

namespace Roster

open Http Connection

/-- A token that can be logged in with and sent. -/
structure Tokens.Usable (token : String) : Prop where
  printable : Printable token
  notBlank : Text.allBlank token = false

/-- The command line gives this token for the cluster API. -/
def Arguments.Gives (words : List String) (token : String) : Prop :=
  ∃ a, Arguments.parse words = .ok a ∧ a.accessToken = some token

namespace Machine

/-- A machine whose environment has a login token. -/
def logIn (m : Machine) (token : String) : Machine :=
  { m with environment := Connection.logIn m.environment token }

/-- A request of a run with one token and the same request of a run with another: if it carries the
first token in one run, it carries the second in the other, and there is no other difference. -/
structure Swapped (first second : String) (s s' : Sent) : Prop where
  line : s'.line = s.line
  host : s'.host = s.host
  url : s'.url = s.url
  headers : ∀ name, name ≠ "authorization" → s'.header name = s.header name
  body : s'.body = s.body
  login : s.Carries first → s'.Carries second
  authorization : ¬s.Carries first → s'.header "authorization" = s.header "authorization"

/-- The requests are swapped, or they are the same and the command line gives the first token. -/
def SameBut (words : List String) (first second : String) (s s' : Sent) : Prop :=
  Swapped first second s s' ∨ Arguments.Gives words first ∧ s' = s

variable {words : List String} {first second : String}

/-! ### Requests -/

theorem Swapped.refl {s : Sent} (h : ¬s.Carries first) : Swapped first second s s where
  line := rfl
  host := rfl
  url := rfl
  headers _ _ := rfl
  body := rfl
  login hcarries := absurd hcarries h
  authorization _ := rfl

theorem swapped_of_twin {s s' : Sent} (h : s.Twin s') (hs : s.Carries first)
    (hs' : s'.Carries second) : Swapped first second s s' where
  line := h.line
  host := h.host
  url := h.url
  headers _ hname := h.header hname
  body := h.body
  login _ := hs'
  authorization hother := absurd hs hother

theorem SameBut.swapped {s s' : Sent} (h : SameBut words first second s s')
    (hother : ¬Arguments.Gives words first) : Swapped first second s s' :=
  h.resolve_right fun hgiven => hother hgiven.1

/-- What two calls send that differ in their token. -/
theorem forall₂_of_twins {base path : String} {params : ListParams} {sent sent' : List Sent}
    (h : Sent.Twins sent sent') (hcalls : Client.Calls base path first params sent)
    (hcalls' : Client.Calls base path second params sent') :
    List.Forall₂ (Swapped first second) sent sent' := by
  cases h with
  | nothing => exact .nil
  | @first s s' htwin rest =>
      obtain ⟨_, _, heq, hasks, hrest⟩ := hcalls.resolve_left (List.cons_ne_nil _ _)
      obtain ⟨rfl, rfl⟩ := List.cons.inj heq
      obtain ⟨_, _, heq, hasks', -⟩ := hcalls'.resolve_left (List.cons_ne_nil _ _)
      obtain ⟨rfl, -⟩ := List.cons.inj heq
      refine .cons (swapped_of_twin htwin hasks.carries hasks'.carries) ?_
      exact List.forall₂_same.mpr fun t ht => .refl (hrest.not_carries t ht _)

/-! ### Calls -/

/-- Two answers are the same, and so are the requests, up to a relation. -/
structure Alike {α : Type} (R : Sent → Sent → Prop) (a a' : Client.Answer α) : Prop where
  result : a'.result = a.result
  network : a'.network = a.network
  sent : List.Forall₂ R a.sent a'.sent

section Calls

variable {α : Type} (decode : Json.Bytes → Except Json.Refusal α) (net : Network)
  (base path : String) (params : ListParams)

theorem swapped_list (hfirst : Tokens.Printable first) (hsecond : Tokens.Printable second) :
    Alike (Swapped first second) (Client.list decode net base path first params)
      (Client.list decode net base path second params) := by
  have htwin := Client.twin_list decode net base path params hfirst hsecond
  exact ⟨htwin.result, htwin.network, forall₂_of_twins htwin.sent
    (Client.calls_list decode net base path first params)
    (Client.calls_list decode net base path second params)⟩

/-- A call with the token of the command line is the same in both runs. -/
theorem alike_of_given {token : String} (h : Arguments.Gives words token) :
    Alike (SameBut words first second) (Client.list decode net base path token params)
      (Client.list decode net base path token params) := by
  have hcalls := Client.calls_list decode net base path token params
  refine ⟨rfl, rfl, List.forall₂_same.mpr fun s hs => ?_⟩
  by_cases hcarries : s.Carries first
  · obtain ⟨rfl, -⟩ := hcalls.asks_of_carries hs hcarries
    exact .inr ⟨h, rfl⟩
  · exact .inl (.refl hcarries)

end Calls

/-- Calls that are swapped are alike whatever the command line gives. -/
theorem Alike.sameBut {α : Type} {a a' : Client.Answer α} (h : Alike (Swapped first second) a a') :
    Alike (SameBut words first second) a a' :=
  ⟨h.result, h.network, h.sent.imp fun _ _ => .inl⟩

theorem swapped_listInstances (hfirst : Tokens.Usable first) (hsecond : Tokens.Usable second)
    (config : Config) (overrides : Overrides) (net : Network) (params : ListParams) :
    Alike (Swapped first second) ((loggedIn config overrides first).listInstances net params)
      ((loggedIn config overrides second).listInstances net params) :=
  swapped_list _ _ _ _ _ hfirst.printable hsecond.printable

theorem alike_listClusters (hfirst : Tokens.Usable first) (hsecond : Tokens.Usable second)
    {a : Arguments} (hparse : Arguments.parse words = .ok a) (config : Config) (net : Network)
    (params : ListParams) :
    Alike (SameBut words first second)
      ((loggedIn config a.overrides first).listClusters net params)
      ((loggedIn config a.overrides second).listClusters net params) := by
  unfold Client.listClusters Client.effectiveClusterToken loggedIn
  rw [Option.getD_some, Option.getD_some]
  cases hgiven : Tokens.given a.overrides.token with
  | none => exact (swapped_list _ _ _ _ _ hfirst.printable hsecond.printable).sameBut
  | some token =>
      have htoken := (Tokens.given_eq_some_iff.mp hgiven).1
      exact alike_of_given _ _ _ _ _ ⟨a, hparse, htoken⟩

/-- With a token of the command line, the login token is of no account to the cluster API. -/
theorem listClusters_of_given {token : String} (hblank : Text.allBlank token = false)
    {overrides : Overrides} (htoken : overrides.token = some token) (config : Config) :
    (loggedIn config overrides first).listClusters =
      (loggedIn config overrides second).listClusters := by
  have hgiven : Tokens.given overrides.token = some token := by
    rw [htoken, Tokens.given_some hblank]
  funext net params
  unfold Client.listClusters Client.effectiveClusterToken loggedIn
  rw [hgiven]
  rfl

/-! ### Listings -/

/-- The network is left the same, and the requests that were sent are the same, up to a
relation. -/
structure Traffic.Alike (R : Sent → Sent → Prop) (t t' : Traffic) : Prop where
  network : t'.network = t.network
  sent : List.Forall₂ R t.sent t'.sent

theorem Traffic.Alike.after {R : Sent → Sent → Prop} {t t' : Traffic} {α : Type}
    {a a' : Client.Answer α} (h : t.Alike R t') (ha : Machine.Alike R a a') :
    (t.after a).Alike R (t'.after a') :=
  ⟨ha.network, List.rel_append h.sent ha.sent⟩

theorem alike_handler (m : Machine) (hfirst : Tokens.Usable first) (hsecond : Tokens.Usable second)
    {a : Arguments} (hparse : Arguments.parse words = .ok a) (config : Config) :
    Plan.Handler.Alike (Traffic.Alike (SameBut words first second))
      ((m.logIn first).handler (loggedIn config a.overrides first))
      ((m.logIn second).handler (loggedIn config a.overrides second)) where
  instances params t t' h := by
    have hanswer := swapped_listInstances hfirst hsecond config a.overrides t.network params
    simp only [handler, h.network]
    exact ⟨hanswer.result, h.after hanswer.sameBut⟩
  clusters params t t' h := by
    have hanswer := alike_listClusters hfirst hsecond hparse config t.network params
    simp only [handler, h.network]
    exact ⟨hanswer.result, h.after hanswer⟩
  selection t t' h := by
    have hselection := (loadSelection_logIn m.environment second m.files).trans
      (loadSelection_logIn m.environment first m.files).symm
    exact ⟨hselection, h⟩

/-- Two runs print the same, end the same and send the same requests, up to a relation. -/
structure Run.Alike (R : Sent → Sent → Prop) (r r' : Run) : Prop where
  out : r'.out = r.out
  result : r'.result = r.result
  sent : List.Forall₂ R r.sent r'.sent

theorem network_logIn (m : Machine) (token : String) : (m.logIn token).network = m.network := rfl

theorem labels_logIn (m : Machine) (token : String) : (m.logIn token).labels = m.labels := by
  have hne : "TERM" ≠ tokenVariable := by decide
  have hterm : (m.logIn token).environment "TERM" = m.environment "TERM" :=
    logIn_of_ne m.environment token hne
  rw [labels, labels, hterm]

section Listings

variable (m : Machine) {a : Arguments} (config : Config)

theorem alike_list (hfirst : Tokens.Usable first) (hsecond : Tokens.Usable second)
    (hparse : Arguments.parse words = .ok a) :
    Run.Alike (SameBut words first second)
      ((m.logIn first).list a (loggedIn config a.overrides first))
      ((m.logIn second).list a (loggedIn config a.overrides second)) := by
  have hstart : Traffic.Alike (SameBut words first second) ⟨m.network, []⟩ ⟨m.network, []⟩ :=
    ⟨rfl, .nil⟩
  have hrun := (alike_handler m hfirst hsecond hparse config).run
    (Listing.plan m.labels a.request) hstart
  unfold list
  rw [labels_logIn, labels_logIn]
  -- Nothing more is needed of the plan.
  generalize Listing.plan m.labels a.request = plan at hrun ⊢
  obtain ⟨hout, hresult, hstate⟩ := hrun
  exact ⟨hout, congrArg (Except.mapError RunError.ofPlan) hresult, hstate.sent⟩

/-- If the command line gives a token, the requests for clusters are the same in both runs. -/
theorem list_sent_of_given (hfirst : Tokens.Usable first) (hsecond : Tokens.Usable second)
    (hparse : Arguments.parse words = .ok a) {token : String}
    (hblank : Text.allBlank token = false) (htoken : a.accessToken = some token) :
    ∃ clusters,
      ((m.logIn first).list a (loggedIn config a.overrides first)).sent =
        ((loggedIn config a.overrides first).listInstances m.network a.request.params).sent ++
          clusters ∧
      ((m.logIn second).list a (loggedIn config a.overrides second)).sent =
        ((loggedIn config a.overrides second).listInstances m.network a.request.params).sent ++
          clusters := by
  have halike := (m.alike_list config hfirst hsecond hparse).sent
  have hanswer := swapped_listInstances hfirst hsecond config a.overrides m.network a.request.params
  obtain ⟨clusters, hsent, hclusters⟩ :=
    (m.logIn first).list_sent a (loggedIn config a.overrides first)
  obtain ⟨clusters', hsent', hclusters'⟩ :=
    (m.logIn second).list_sent a (loggedIn config a.overrides second)
  simp only [network_logIn] at hsent hclusters hsent' hclusters'
  refine ⟨clusters, hsent, hsent'.trans (congrArg _ ?_)⟩
  -- There are as many requests in both runs, so both have asked for clusters, or none has.
  have hlength : clusters.length = clusters'.length := by
    have hall := halike.length_eq
    rw [hsent, hsent', List.length_append, List.length_append, hanswer.sent.length_eq] at hall
    exact Nat.add_left_cancel hall
  rcases hclusters with rfl | ⟨page, params, hpage, hparams, rfl⟩
  · exact List.eq_nil_of_length_eq_zero hlength.symm
  rcases hclusters' with rfl | ⟨page', params', hpage', hparams', rfl⟩
  · exact (List.eq_nil_of_length_eq_zero hlength).symm
  obtain rfl : page = page' := Except.ok.inj (hpage.symm.trans (hanswer.result.symm.trans hpage'))
  obtain rfl : params = params' := Option.some.inj (hparams.symm.trans hparams')
  rw [hanswer.network, listClusters_of_given hblank htoken config]

end Listings

/-! ### Runs -/

/-- Neither the settings nor what is checked in order to connect depends on the login token. -/
theorem prepare_logIn_of_config {m : Machine} {a : Arguments}
    (hvalid : Search.valid a.request.search = true) {config : Config}
    (hconfig : Config.load m.environment m.files = .ok config) {token : String}
    (hblank : Text.allBlank token = false) :
    (m.logIn token).prepare a =
      ((Client.checks m.environment config.apiUrl (clusterBase config a.overrides)).map fun _ =>
        loggedIn config a.overrides token).mapError .api := by
  have hload : Config.load (m.logIn token).environment (m.logIn token).files = .ok config :=
    (load_logIn m.environment token m.files).trans hconfig
  rw [prepare_of_config hvalid hload]
  exact congrArg (Except.mapError RunError.api) (connect_logIn m.environment hblank config _)

/-- With any login token that is not blank, preparing to list fails in the same way, or it comes to
a client that differs in nothing but the token. -/
theorem prepare_logIn (m : Machine) (a : Arguments) :
    (∃ e, ∀ token, Text.allBlank token = false → (m.logIn token).prepare a = .error e) ∨
      ∃ config, ∀ token, Text.allBlank token = false →
        (m.logIn token).prepare a = .ok (loggedIn config a.overrides token) := by
  cases hvalid : Search.valid a.request.search with
  | false => exact .inl ⟨_, fun _ _ => prepare_of_invalid hvalid⟩
  | true =>
      cases hconfig : Config.load m.environment m.files with
      | error e =>
          refine .inl ⟨.settings e, fun token _ => ?_⟩
          exact prepare_of_settingsError hvalid
            ((load_logIn m.environment token m.files).trans hconfig)
      | ok config =>
          cases hchecks : Client.checks m.environment config.apiUrl
              (clusterBase config a.overrides) with
          | error e =>
              refine .inl ⟨.api e, fun token hblank => ?_⟩
              rw [prepare_logIn_of_config hvalid hconfig hblank, hchecks]
              rfl
          | ok _ =>
              refine .inr ⟨config, fun token hblank => ?_⟩
              rw [prepare_logIn_of_config hvalid hconfig hblank, hchecks]
              rfl

/-- A run with a login token that is not blank is refused whatever the token is, or it lists through
a client that differs in nothing but the token. -/
theorem run_logIn (m : Machine) (words : List String) :
    (∃ e, ∀ token, Text.allBlank token = false →
      (m.logIn token).run words = refuse e ∧ (m.logIn token).instancesSent words = []) ∨
      ∃ a config, Arguments.parse words = .ok a ∧ ∀ token, Text.allBlank token = false →
        (m.logIn token).run words =
            (m.logIn token).list a (loggedIn config a.overrides token) ∧
          (m.logIn token).instancesSent words =
            ((loggedIn config a.overrides token).listInstances m.network a.request.params).sent := by
  unfold run instancesSent
  cases hparse : Arguments.parse words with
  | error e => exact .inl ⟨.usage e, fun _ _ => ⟨rfl, rfl⟩⟩
  | ok a =>
      dsimp only
      rcases m.prepare_logIn a with ⟨e, hrefused⟩ | ⟨config, hprepared⟩
      · refine .inl ⟨e, fun token hblank => ?_⟩
        rw [hrefused token hblank]
        exact ⟨rfl, rfl⟩
      · refine .inr ⟨a, config, rfl, fun token hblank => ?_⟩
        rw [hprepared token hblank]
        exact ⟨rfl, rfl⟩

theorem alike_run (m : Machine) (words : List String) (hfirst : Tokens.Usable first)
    (hsecond : Tokens.Usable second) :
    Run.Alike (SameBut words first second) ((m.logIn first).run words)
      ((m.logIn second).run words) := by
  rcases m.run_logIn words with ⟨e, hrefused⟩ | ⟨a, config, hparse, hlisted⟩
  · rw [(hrefused first hfirst.notBlank).1, (hrefused second hsecond.notBlank).1]
    exact ⟨rfl, rfl, .nil⟩
  · rw [(hlisted first hfirst.notBlank).1, (hlisted second hsecond.notBlank).1]
    exact m.alike_list config hfirst hsecond hparse

/-- When the command line gives one of the login tokens, both runs ask for clusters with it. -/
theorem sent_of_given (m : Machine) (hfirst : Tokens.Usable first) (hsecond : Tokens.Usable second)
    (hgiven : Arguments.Gives words first) :
    ∃ clusters,
      ((m.logIn first).run words).sent = (m.logIn first).instancesSent words ++ clusters ∧
      ((m.logIn second).run words).sent = (m.logIn second).instancesSent words ++ clusters ∧
      List.Forall₂ (Swapped first second) ((m.logIn first).instancesSent words)
        ((m.logIn second).instancesSent words) := by
  rcases m.run_logIn words with ⟨e, hrefused⟩ | ⟨a, config, hparse, hlisted⟩
  · obtain ⟨hrun, hinstances⟩ := hrefused first hfirst.notBlank
    obtain ⟨hrun', hinstances'⟩ := hrefused second hsecond.notBlank
    rw [hrun, hinstances, hrun', hinstances']
    exact ⟨[], rfl, rfl, .nil⟩
  · obtain ⟨hrun, hinstances⟩ := hlisted first hfirst.notBlank
    obtain ⟨hrun', hinstances'⟩ := hlisted second hsecond.notBlank
    obtain ⟨a', hparse', htoken⟩ := hgiven
    obtain rfl : a = a' := Except.ok.inj (hparse.symm.trans hparse')
    obtain ⟨clusters, hsent, hsent'⟩ :=
      m.list_sent_of_given config hfirst hsecond hparse hfirst.notBlank htoken
    have hswapped :=
      swapped_listInstances hfirst hsecond config a.overrides m.network a.request.params
    rw [hrun, hinstances, hrun', hinstances']
    exact ⟨clusters, hsent, hsent', hswapped.sent⟩

/-- What two runs with two login tokens have in common. -/
structure SameRun (m : Machine) (words : List String) (first second : String) : Prop where
  out : ((m.logIn second).run words).out = ((m.logIn first).run words).out
  result : ((m.logIn second).run words).result = ((m.logIn first).run words).result
  report : Report.ofRun ((m.logIn second).run words) = Report.ofRun ((m.logIn first).run words)
  sent : ¬Arguments.Gives words first → List.Forall₂ (Swapped first second)
    ((m.logIn first).run words).sent ((m.logIn second).run words).sent
  /-- Only the requests for instances are swapped when the first token is also the one that the
  command line gives for the clusters. -/
  given : Arguments.Gives words first → ∃ clusters,
    ((m.logIn first).run words).sent = (m.logIn first).instancesSent words ++ clusters ∧
    ((m.logIn second).run words).sent = (m.logIn second).instancesSent words ++ clusters ∧
    List.Forall₂ (Swapped first second) ((m.logIn first).instancesSent words)
      ((m.logIn second).instancesSent words)

/-- **Secrecy of the login token.** Two runs that log in with two tokens print the same, end the
same and leave the same report. They send the same requests, but that those with the first token in
one run have the second in the other. If the command line gives the first token for the clusters,
the requests for these are the same in both runs. -/
theorem login_token_is_secret (m : Machine) (words : List String)
    (hfirst : Tokens.Usable first) (hsecond : Tokens.Usable second) :
    SameRun m words first second := by
  have halike := m.alike_run words hfirst hsecond
  have hreport : Report.ofRun ((m.logIn second).run words) =
      Report.ofRun ((m.logIn first).run words) := by
    unfold Report.ofRun
    rw [halike.out, halike.result]
  exact ⟨halike.out, halike.result, hreport,
    fun hother => halike.sent.imp fun _ _ h => h.swapped hother,
    m.sent_of_given hfirst hsecond⟩

/-- Without settings, and with a server that sends the client on and then refuses it. -/
def refusedMachine : Machine where
  environment := Environment.empty.set "HOME" (some "/home")
  files _ := .missing
  network := .server [⟨302, some "/elsewhere", []⟩, ⟨401, none, []⟩]

theorem login_token_is_secret_refused :
    Tokens.Usable "one" ∧ Tokens.Usable "two" ∧
      SameRun refusedMachine ["kafka", "list"] "one" "two" := by
  have hone : Tokens.Usable "one" := ⟨by decide, by decide⟩
  have htwo : Tokens.Usable "two" := ⟨by decide, by decide⟩
  exact ⟨hone, htwo, login_token_is_secret refusedMachine ["kafka", "list"] hone htwo⟩

/-! ### The exception -/

def wordsGiving : List String := ["kafka", "list", "--access-token", "one"]

/-- A run whose command line gives one of the login tokens asks for the clusters with that token,
whichever of them it logs in with. So its requests are not all swapped. -/
theorem given_token_stays :
    let sent (token : String) := ((clusterMachine.logIn token).run wordsGiving).sent
    Tokens.Usable "one" ∧ Tokens.Usable "two" ∧
      (sent "one").map (·.header "authorization") =
        [some "Bearer one", none, some "Bearer one"] ∧
      (sent "two").map (·.header "authorization") =
        [some "Bearer two", none, some "Bearer one"] ∧
      ¬List.Forall₂ (Swapped "one" "two") (sent "one") (sent "two") := by
  intro sent
  have hone : (sent "one").map (·.header "authorization") =
      [some "Bearer one", none, some "Bearer one"] := by decide +kernel
  have htwo : (sent "two").map (·.header "authorization") =
      [some "Bearer two", none, some "Bearer one"] := by decide +kernel
  refine ⟨⟨by decide, by decide⟩, ⟨by decide, by decide⟩, hone, htwo, fun hswapped => ?_⟩
  have hauthorization : List.Forall₂ (fun h h' => h = some "Bearer one" → h' = some "Bearer two")
      ((sent "one").map (·.header "authorization"))
      ((sent "two").map (·.header "authorization")) :=
    List.forall₂_map_left_iff.mpr
      (List.forall₂_map_right_iff.mpr (hswapped.imp fun _ _ h => h.login))
  rw [hone, htwo] at hauthorization
  have hclusters := (List.forall₂_cons.mp (List.forall₂_cons.mp hauthorization).2).2
  exact absurd ((List.forall₂_cons.mp hclusters).1 rfl) (by decide)

end Machine

end Roster
