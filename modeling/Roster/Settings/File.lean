import Roster.Settings.Environment
import Roster.Text.Quoted
import Roster.Text.Utf8
import Roster.Toml.Document
import Roster.Toml.Shape
/-!
# Settings files

A settings file is a TOML document that may be missing. One that is there and cannot be read, is no
TOML, or holds a value of the wrong kind is an error, never taken for a missing one.
-/

namespace Roster

/-- What stands at a path. -/
inductive FileState where
  | missing
  | unreadable (reason : String)
  | bytes (content : List UInt8)
  deriving Repr, DecidableEq

/-- A directory is no file. -/
def FileState.directory : FileState := .unreadable "Is a directory (os error 21)"

/-- What stands at each path. -/
abbrev Files := String → FileState

inductive SettingsError where
  /-- What could not be read, and why. -/
  | unreadable (what reason : String)
  /-- The document at a path is no TOML, or a value in it is of the wrong kind and shown. -/
  | malformed (path : String) (detail : Option String)
  | contextNotFound (name path : String)
  deriving Repr, DecidableEq

namespace SettingsError

def message : SettingsError → String
  | unreadable what _ => "config file " ++ what
  | malformed path _ => "Failed to deserialize " ++ path
  | contextNotFound name path => "Current context \"" ++ name ++ "\" not found in " ++ path

/-- What lies behind an error, as far as it is known. -/
def causes : SettingsError → List String
  | unreadable _ reason => [reason]
  | malformed _ detail => detail.toList
  | contextNotFound _ _ => []

end SettingsError

namespace Settings

open Toml

/-- Reads a file with a reader for its document. A missing file gives nothing. -/
def readFile {α : Type} (read : Entries → Except Mismatch α) (path : String) (file : FileState) :
    Except SettingsError (Option α) :=
  match file with
  | .missing => .ok none
  | .unreadable reason => .error (.unreadable (Text.quoted path) reason)
  | .bytes content =>
    match Text.Utf8.decode? content with
    | none => .error (.unreadable (Text.quoted path) "stream did not contain valid UTF-8")
    | some text =>
      match Toml.parse? text with
      | none => .error (.malformed path none)
      | some entries =>
        match read entries with
        | .ok a => .ok (some a)
        | .error m => .error (.malformed path (some (m.show text)))

/-- A path with one more part; a part that starts at the root stands alone. -/
def joinPath (path part : String) : String :=
  if path.isEmpty ∨ part.toList.head? = some '/' then part
  else if path.toList.getLast? = some '/' then path ++ part
  else path ++ "/" ++ part

/-- Where a file is found: where a variable says, else in a folder at home. -/
def defaultPath (env : Environment) (name file : String) : Except SettingsError String :=
  match env name with
  | some path => .ok path
  | none =>
    match (env "HOME").filter (!·.isEmpty) with
    | some home => .ok (joinPath (joinPath home ".kfleet") file)
    | none => .error (.unreadable "default path" "can't get config directory")

end Settings

end Roster
