import Roster.Command.Report
/-!
# The program

The variables and the files that a run may ask for are read before it starts. The program is built
without a network, so every request finds it out of reach.
-/

namespace Roster.Program

/-- The variables that a run may ask for. -/
def variableNames : List String :=
  ["KFLEET_CONFIG", "KFLEET_CONTEXTS", Connection.tokenVariable, "HOME", "TERM"]
    ++ Http.Proxy.names.map Prod.fst

def readEnvironment : IO Environment :=
  variableNames.foldlM (fun env name => return env.set name (← IO.getEnv name)) .empty

/-- What the system says of a file that cannot be read; its codes may come negated. -/
def reason (code : UInt32) (details : String) : String :=
  let code := if code < 0x80000000 then code else -code
  details.capitalize ++ " (os error " ++ toString code.toNat ++ ")"

def readState (path : String) : IO FileState := do
  try return .bytes (← IO.FS.readBinFile path).toList
  catch
    | .noFileOrDirectory .. => return .missing
    | .inappropriateType _ code details => return .unreadable (reason code details)
    | .permissionDenied _ code details => return .unreadable (reason code details)
    | e => return .unreadable (toString e)

/-- The files that a run may ask for. -/
def paths (env : Environment) : List String :=
  [Settings.defaultPath env "KFLEET_CONFIG" "config",
    Settings.defaultPath env "KFLEET_CONTEXTS" "contexts"].filterMap Except.toOption

def readFiles (env : Environment) : IO Files := do
  let states ← (paths env).mapM fun path => return (path, ← readState path)
  return fun path => (states.lookup path).getD .missing

end Roster.Program

open Roster in
def main (arguments : List String) : IO UInt32 := do
  let env ← Program.readEnvironment
  let files ← Program.readFiles env
  let report := Report.ofRun (Machine.run ⟨env, files, .unreachable⟩ arguments)
  IO.print report.out
  IO.eprint report.complaint
  return report.status.toUInt32
