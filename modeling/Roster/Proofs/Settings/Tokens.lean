import Roster.Settings.Connection
import Roster.Proofs.Api.Client
/-!
# Which token goes where

A client that connects sends the login token to the instance API, and to the cluster API the token
of the command line or else the login token. A blank token counts as none in each choice.
-/

namespace Roster

namespace Tokens

/-- A token that counts: none that is blank does. -/
def given (token : Option String) : Option String := token.filter (!Text.allBlank ·)

/-- The login token: that of the environment before that of the settings. -/
def loginToken (environment config : Option String) : Option String :=
  (given environment).or (given config)

theorem given_eq_some_iff {token : Option String} {s : String} :
    given token = some s ↔ token = some s ∧ Text.allBlank s = false := by
  rw [given, Option.filter_eq_some_iff, Bool.not_eq_true']

theorem not_blank_of_given {token : Option String} {s : String} (h : given token = some s) :
    Text.allBlank s = false := (given_eq_some_iff.mp h).2

theorem not_blank_of_loginToken {environment config : Option String} {token : String}
    (h : loginToken environment config = some token) : Text.allBlank token = false := by
  rcases Option.or_eq_some_iff.mp h with henvironment | ⟨-, hconfig⟩
  · exact not_blank_of_given henvironment
  · exact not_blank_of_given hconfig

/-- What is sent in place of a token is not blank either. -/
theorem not_blank_getD (flag : Option String) {token : String}
    (h : Text.allBlank token = false) : Text.allBlank ((given flag).getD token) = false := by
  cases hflag : given flag with
  | none => exact h
  | some s => exact not_blank_of_given hflag

theorem given_some {s : String} (hs : Text.allBlank s = false) : given (some s) = some s :=
  given_eq_some_iff.mpr ⟨rfl, hs⟩

theorem first_cons (token : Option String) (rest : List (Option String)) :
    first (token :: rest) = (given token).or (first rest) := by
  cases token with
  | none => rfl
  | some s =>
      simp only [first, given, List.filterMap_cons, id, List.find?_cons, Option.filter_some]
      split
      · next hs => rw [if_pos hs, Option.some_or]
      · next hs => rw [if_neg (by simp [hs]), Option.none_or]

theorem first_nil : first [] = none := rfl

theorem first_pair (a b : Option String) : first [a, b] = (given a).or (given b) := by
  rw [first_cons, first_cons, first_nil, Option.or_none]

/-- The token for the cluster API, once there is a login token. -/
theorem resolve_cluster {flag environment config : Option String} {token : String}
    (htoken : loginToken environment config = some token) (hblank : Text.allBlank token = false) :
    (resolve flag environment config).cluster = some ((given flag).getD token) := by
  change first [flag, first [environment, config]] = _
  rw [first_pair, first_pair environment]
  change (given flag).or (given (loginToken environment config)) = _
  rw [htoken, given_some hblank]
  cases given flag <;> rfl

theorem resolve_login (flag environment config : Option String) :
    (resolve flag environment config).login = loginToken environment config := first_pair _ _

end Tokens

/-! ### Connecting -/

namespace Connection

open Tokens

variable {env : Environment} {config : Config} {overrides : Overrides}

/-- The client that connects with a login token. -/
def loggedIn (config : Config) (overrides : Overrides) (token : String) : Client :=
  ⟨config.apiUrl, clusterBase config overrides, token, some ((given overrides.token).getD token)⟩

theorem connect_of_no_login (h : loginToken (env tokenVariable) config.token = none) :
    connect env config overrides = .error .missingToken := by
  unfold connect
  dsimp only
  rw [resolve_login, h, Client.create_of_blank rfl]
  rfl

/-- With a login token, the addresses and the proxy decide whether a client connects. -/
theorem connect_of_login {token : String}
    (h : loginToken (env tokenVariable) config.token = some token) :
    connect env config overrides =
      (Client.checks env config.apiUrl (clusterBase config overrides)).map fun _ =>
        loggedIn config overrides token := by
  have hblank := not_blank_of_loginToken h
  have hcluster := not_blank_getD overrides.token hblank
  unfold connect
  dsimp only
  rw [resolve_login, resolve_cluster h hblank, h, Option.getD_some, Client.create_of_token hblank]
  cases Client.checks env config.apiUrl (clusterBase config overrides) with
  | error e => rfl
  | ok _ => exact congrArg Except.ok (Client.withClusterToken_eq hcluster)

/-- What a client knows that has connected. -/
structure Connects (env : Environment) (config : Config) (overrides : Overrides) (c : Client) :
    Prop where
  login : loginToken (env tokenVariable) config.token = some c.token
  instancesBase : c.instancesBase = config.apiUrl
  clustersBase : c.clustersBase = clusterBase config overrides
  clusterToken : c.effectiveClusterToken = (given overrides.token).getD c.token

theorem connects_of_connect {c : Client} (h : connect env config overrides = .ok c) :
    Connects env config overrides c := by
  cases htoken : loginToken (env tokenVariable) config.token with
  | none =>
      rw [connect_of_no_login htoken] at h
      contradiction
  | some token =>
      rw [connect_of_login htoken] at h
      obtain ⟨_, -, rfl⟩ := map_eq_ok_iff.mp h
      exact ⟨htoken, rfl, rfl, rfl⟩

end Connection

end Roster
