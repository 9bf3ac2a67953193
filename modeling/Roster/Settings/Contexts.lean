import Roster.Settings.File
/-!
# Contexts

A context selects an instance. Of the named contexts in the file one may be current; the current one
has to be there.
-/

namespace Roster

/-- What a context selects. -/
structure Context where
  instanceId : Option String
  deriving Repr, DecidableEq

/-- The named contexts, and the name of the current one. -/
structure Contexts where
  current : Option String
  entries : List (String × Context)
  deriving Repr, DecidableEq

namespace Context

open Toml

/-- Takes one entry of a context into account. -/
def set (c : Context) (key : Key) (v : Value) : Except Mismatch Context :=
  atKey key <| if key.name = "kafka_id" then v.text.map (⟨some ·⟩) else .ok c

/-- A context from a table, or from a list whose first element is the selection. -/
def ofValue : Value → Except Mismatch Context
  | .table _ _ entries => entries.foldlM (fun c entry => c.set entry.1 entry.2) ⟨none⟩
  | .array _ items | .tables _ items =>
    match items with
    | [] => .ok ⟨none⟩
    | v :: _ => v.text.map (⟨some ·⟩)
  | .moment _ _ => .ok ⟨none⟩
  | v => refuse v "struct ServiceConfig"

end Context

namespace Contexts

open Toml

def empty : Contexts := ⟨none, []⟩

/-- The named contexts of a table. -/
def entriesOf : Value → Except Mismatch (List (String × Context))
  | .table _ _ entries => entries.mapM fun (key, v) => do
    .ok (key.name, ← atKey key (Context.ofValue v))
  | .moment span text => refuse (.string span text) "struct ServiceConfig"
  | v => refuse v "a map"

/-- Takes one entry of the file into account. -/
def set (c : Contexts) (key : Key) (v : Value) : Except Mismatch Contexts :=
  atKey key <|
    if key.name = "current_context" then v.text.map ({ c with current := some · })
    else if key.name = "contexts" then (entriesOf v).map ({ c with entries := · })
    else .ok c

def ofEntries (entries : Entries) : Except Mismatch Contexts :=
  entries.foldlM (fun c entry => c.set entry.1 entry.2) empty

/-- The contexts of a file; a missing file has none. -/
def ofFile (path : String) (file : FileState) : Except SettingsError Contexts :=
  (Settings.readFile ofEntries path file).map (·.getD empty)

/-- The current context, none when none is named. -/
def active (path : String) (c : Contexts) : Except SettingsError (Option Context) :=
  match c.current.filter (!·.isEmpty) with
  | none => .ok none
  | some name =>
    match c.entries.lookup name with
    | some context => .ok (some context)
    | none => .error (.contextNotFound name path)

/-- The instance that is selected. -/
def selection (path : String) (c : Contexts) : Except SettingsError (Option String) := do
  .ok (((← c.active path).bind (·.instanceId)).filter (!·.isEmpty))

/-- The selection in the file that the environment points to. -/
def loadSelection (env : Environment) (files : Files) : Except SettingsError (Option String) := do
  let path ← Settings.defaultPath env "KFLEET_CONTEXTS" "contexts"
  (← ofFile path (files path)).selection path

end Contexts

end Roster
