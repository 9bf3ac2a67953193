import Roster.Settings.Contexts
import Roster.Proofs.Settings.Tokens
/-!
# What the login token of the environment touches

Logging in sets one variable. None of what is found through other variables depends on it: the
paths of files, the settings, the selection and the proxy.
-/

namespace Roster

/-- A search depends on what it is told of the members alone. -/
theorem findSome?_congr {α β : Type} {f g : α → Option β} {xs : List α}
    (h : ∀ x ∈ xs, f x = g x) : xs.findSome? f = xs.findSome? g := by
  induction xs with
  | nil => rfl
  | cons x xs ih =>
      rw [List.forall_mem_cons] at h
      rw [List.findSome?_cons, List.findSome?_cons, h.1, ih h.2]

namespace Connection

variable (env : Environment) (token : String)

/-- The environment with a login token. -/
def logIn : Environment := env.set tokenVariable (some token)

theorem logIn_self : logIn env token tokenVariable = some token := env.set_self _ _

theorem logIn_of_ne {name : String} (h : name ≠ tokenVariable) :
    logIn env token name = env name := env.set_of_ne h _

theorem defaultPath_logIn {name : String} (h : name ≠ tokenVariable) (file : String) :
    Settings.defaultPath (logIn env token) name file = Settings.defaultPath env name file := by
  unfold Settings.defaultPath
  rw [logIn_of_ne env token h, logIn_of_ne env token (by decide)]

theorem load_logIn (files : Files) :
    Config.load (logIn env token) files = Config.load env files := by
  unfold Config.load
  rw [defaultPath_logIn env token (by decide)]

theorem loadSelection_logIn (files : Files) :
    Contexts.loadSelection (logIn env token) files = Contexts.loadSelection env files := by
  unfold Contexts.loadSelection
  rw [defaultPath_logIn env token (by decide)]

theorem name_ne_tokenVariable : ∀ p ∈ Http.Proxy.names, p.1 ≠ tokenVariable := by decide

theorem chosen?_logIn : Http.Proxy.chosen? (logIn env token) = Http.Proxy.chosen? env := by
  apply findSome?_congr
  intro p hp
  dsimp only
  rw [logIn_of_ne env token (name_ne_tokenVariable p hp)]

theorem checks_logIn (instancesBase clustersBase : String) :
    Client.checks (logIn env token) instancesBase clustersBase =
      Client.checks env instancesBase clustersBase := by
  unfold Client.checks Client.checkProxy Http.Proxy.refusal?
  rw [chosen?_logIn]

variable {token}

/-- With a token that is not blank in the environment, everything else decides whether a client
connects. -/
theorem connect_logIn (hblank : Text.allBlank token = false) (config : Config)
    (overrides : Overrides) :
    connect (logIn env token) config overrides =
      (Client.checks env config.apiUrl (clusterBase config overrides)).map fun _ =>
        loggedIn config overrides token := by
  have hlogin : Tokens.loginToken (logIn env token tokenVariable) config.token = some token := by
    rw [logIn_self, Tokens.loginToken, Tokens.given_some hblank, Option.some_or]
  rw [connect_of_login hlogin, checks_logIn]

end Connection

end Roster
