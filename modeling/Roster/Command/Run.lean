import Roster.Command.Arguments
import Roster.Listing.Basic
import Roster.Settings.Connection
import Roster.Settings.Contexts
/-!
# Runs

A run reads the command line, checks the search term, reads the settings and connects, and only then
lists. Nothing is sent before all of this has succeeded.
-/

namespace Roster

/-- What a run finds: variables, files and a network. -/
structure Machine where
  environment : Environment
  files : Files
  network : Http.Network

inductive RunError where
  | usage (e : UsageError)
  | search (term : String)
  | settings (e : SettingsError)
  | api (e : ApiError)

namespace RunError

def message : RunError → String
  | usage e => e.message
  | search term => Search.refusal term
  | settings e => e.message
  | api e => e.message

def causes : RunError → List String
  | settings e => e.causes
  | api e => e.causes
  | usage _ | search _ => []

/-- The error of a listing. -/
def ofPlan : Plan.Error SettingsError → RunError
  | .api e => api e
  | .selection e => settings e

end RunError

/-- What came of a run: what it printed, how it ended, and the requests that it sent. -/
structure Run where
  out : String
  result : Except RunError Unit
  sent : List Http.Sent

/-- The listing that arguments ask for. -/
def Arguments.request (a : Arguments) : Listing.Request :=
  ⟨a.page.val, a.limit.val, a.search.getD "", a.format⟩

def Arguments.overrides (a : Arguments) : Overrides := ⟨a.accessToken, a.clusterApiUrl⟩

namespace Machine

/-- The network as it is left, and the requests that were sent until then. -/
structure Traffic where
  network : Http.Network
  sent : List Http.Sent

/-- Adds what a call has sent. -/
def Traffic.after {α : Type} (t : Traffic) (a : Client.Answer α) : Traffic :=
  ⟨a.network, t.sent ++ a.sent⟩

/-- Answers a listing through a client and from the contexts. -/
def handler (m : Machine) (client : Client) : Plan.Handler SettingsError Traffic where
  instances params t :=
    let a := client.listInstances t.network params
    (a.result, t.after a)
  clusters params t :=
    let a := client.listClusters t.network params
    (a.result, t.after a)
  selection t := (Contexts.loadSelection m.environment m.files, t)

/-- Everything that comes before the first request. -/
def prepare (m : Machine) (a : Arguments) : Except RunError Client := do
  if !Search.valid a.request.search then throw (.search a.request.search)
  let config ← (Config.load m.environment m.files).mapError .settings
  (Connection.connect m.environment config a.overrides).mapError .api

def labels (m : Machine) : Labels := Terminal.labels (m.environment "TERM")

/-- Lists through a client. -/
def list (m : Machine) (a : Arguments) (client : Client) : Run :=
  let r := (Listing.plan m.labels a.request).run (m.handler client) ⟨m.network, []⟩
  ⟨r.out, r.result.mapError .ofPlan, r.state.sent⟩

/-- A run that failed before anything was printed or sent. -/
def refuse (e : RunError) : Run := ⟨"", .error e, []⟩

/-- Runs the words behind the name of the program. -/
def run (m : Machine) (words : List String) : Run :=
  match Arguments.parse words with
  | .error e => refuse (.usage e)
  | .ok a =>
    match m.prepare a with
    | .error e => refuse e
    | .ok client => m.list a client

end Machine

end Roster
