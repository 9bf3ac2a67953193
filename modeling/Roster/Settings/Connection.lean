import Roster.Api.Client
import Roster.Settings.Config
/-!
# Connecting

The login token comes from the environment or else from the settings, and goes to both APIs. What
the command line gives is for the cluster API alone: another token, another address. Blank tokens
and empty addresses count as not given.
-/

namespace Roster

/-- The tokens for the two APIs. -/
structure Tokens where
  login : Option String
  cluster : Option String
  deriving Repr, DecidableEq

namespace Tokens

/-- The first token that is not blank, as it was given. -/
def first (candidates : List (Option String)) : Option String :=
  (candidates.filterMap id).find? (!Text.allBlank ·)

def resolve (flag environment config : Option String) : Tokens :=
  let login := first [environment, config]
  ⟨login, first [flag, login]⟩

end Tokens

/-- What the command line gives for the cluster API. -/
structure Overrides where
  token : Option String
  clusterApiUrl : Option String
  deriving Repr, DecidableEq

namespace Connection

/-- The variable with the login token. -/
def tokenVariable : String := "KFLEET_ACCESS_TOKEN"

/-- The address of the cluster API. -/
def clusterBase (config : Config) (overrides : Overrides) : String :=
  (overrides.clusterApiUrl.filter (!·.isEmpty)).getD config.effectiveClusterUrl

/-- A client for the settings. -/
def connect (env : Environment) (config : Config) (overrides : Overrides) :
    Except ApiError Client := do
  let tokens := Tokens.resolve overrides.token (env tokenVariable) config.token
  let client ← Client.create env config.apiUrl (clusterBase config overrides) (tokens.login.getD "")
  match tokens.cluster with
  | some token => .ok (client.withClusterToken token)
  | none => .ok client

end Connection

end Roster
