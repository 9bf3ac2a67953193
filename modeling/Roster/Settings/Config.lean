import Roster.Settings.File
/-!
# The connection settings

Where the APIs are, the login token and how long to wait for an answer. Each setting has a value of
its own when the file does not give it; settings with other names are left alone.
-/

namespace Roster

structure Config where
  apiUrl : String
  /-- The address of the cluster API, if it is another one. -/
  clusterApiUrl : Option String
  token : Option String
  timeoutSeconds : Nat
  deriving Repr, DecidableEq

namespace Config

open Toml

def default : Config := ⟨"https://api.openshift.com", none, none, 30⟩

/-- The address of the cluster API. -/
def effectiveClusterUrl (c : Config) : String := c.clusterApiUrl.getD c.apiUrl

/-- Takes one entry of the file into account. -/
def set (c : Config) (key : Key) (v : Value) : Except Mismatch Config :=
  atKey key <|
    if key.name = "api_url" then v.text.map ({ c with apiUrl := · })
    else if key.name = "cluster_mgmt_api_url" then v.text.map ({ c with clusterApiUrl := some · })
    else if key.name = "access_token" then v.text.map ({ c with token := some · })
    else if key.name = "request_timeout_secs" then v.count.map ({ c with timeoutSeconds := · })
    else .ok c

/-- The settings of a document. Entries are read in their order. -/
def ofEntries (entries : Entries) : Except Mismatch Config :=
  entries.foldlM (fun c entry => c.set entry.1 entry.2) default

/-- The settings of a file; those of a missing file are the usual ones. -/
def ofFile (path : String) (file : FileState) : Except SettingsError Config :=
  (Settings.readFile ofEntries path file).map (·.getD default)

/-- The settings that the environment points to. -/
def load (env : Environment) (files : Files) : Except SettingsError Config := do
  let path ← Settings.defaultPath env "KFLEET_CONFIG" "config"
  ofFile path (files path)

end Config

end Roster
