import Roster.Command.Help
/-!
# What can be wrong with a command line

Requests for help and for the version end the reading of a command line like errors do. A command
line that is wrong is answered with what is wrong, mostly with how the command is used, and with
where to read more.
-/

namespace Roster

inductive UsageError where
  /-- The page or the summary of a topic is asked for. -/
  | help (topic : Topic) (long : Bool)
  | version
  /-- Nothing is said of what to do. -/
  | commandMissing (c : Command)
  | unknownCommand (topic : Topic) (word : String)
  /-- A word that is no option here, and the options that came before it. -/
  | unknownArgument (c : Command) (word : String) (given : List ListOption)
  /-- A command that stands where commands are no longer recognised. -/
  | hiddenCommand (c : Command) (word : String)
  /-- A flag with a value, and the options that came before it. -/
  | unwantedValue (c : Command) (flag value : String) (given : List ListOption)
  | repeated (o : ListOption)
  | valueMissing (o : ListOption)
  | notAFormat (value : String)
  | notACount (o : ListOption) (value : String) (reason : Count.Refusal)
  deriving Repr, DecidableEq

namespace UsageError

/-- The groups of options that were given, each once. -/
def groups (given : List ListOption) : List (List ListOption) :=
  given.foldl (fun gs o => if o.group ∈ gs then gs else gs ++ [o.group]) []

/-- How a command is used with some arguments. -/
def formWith (c : Command) (arguments : List String) : String :=
  " ".intercalate (c.path :: arguments) ++ if c.hasCommands then " <COMMAND>" else ""

/-- How a command is used, with the options that were given. -/
def formGiven (c : Command) (given : List ListOption) : String :=
  if given.isEmpty then c.form else formWith c ((groups given).map ListOption.groupText)

/-- What is wrong, how it is used instead, and where more is said. -/
def withUsage (what form pointer : String) : String :=
  "error: " ++ what ++ "\n\nUsage: " ++ form ++ pointer

/-- Where more is said of a command. -/
def pointer : String := (Topic.command .fleet).pointer

def unexpected (word : String) : String := "unexpected argument '" ++ word ++ "' found"

/-- The choices that a value of an option is one of, on a line of their own. -/
def choicesLine (o : ListOption) : String :=
  if o = .output then "\n  " ++ ListOption.choices else ""

def message : UsageError → String
  | help topic long => if long then topic.page else topic.summary
  | version => Command.version
  | commandMissing c => (Topic.command c).summary
  | unknownCommand topic word =>
    withUsage ("unrecognized subcommand '" ++ word ++ "'") topic.form topic.pointer
  | unknownArgument c word given => withUsage (unexpected word) (formGiven c given) pointer
  | hiddenCommand c word =>
    withUsage (unexpected word ++ "\n\n  tip: subcommand '" ++ word
      ++ "' exists; to use it, remove the '--' before it") c.form pointer
  | unwantedValue c flag value given =>
    withUsage
      ("unexpected value '" ++ value ++ "' for '" ++ flag ++ "' found; no more were expected")
      (formWith c (flag :: (groups given).map ListOption.groupText)) pointer
  | repeated o =>
    withUsage ("the argument '" ++ o.written ++ "' cannot be used multiple times") Command.list.form
      pointer
  | valueMissing o =>
    "error: a value is required for '" ++ o.written ++ "' but none was supplied" ++ choicesLine o
      ++ pointer
  | notAFormat value =>
    "error: invalid value '" ++ value ++ "' for '" ++ ListOption.output.written ++ "'"
      ++ choicesLine .output ++ pointer
  | notACount o value reason =>
    "error: invalid value '" ++ value ++ "' for '" ++ o.written ++ "': " ++ reason.message ++ pointer

/-- Whether what is said was asked for. -/
def isAnswer : UsageError → Bool
  | help _ _ | version => true
  | _ => false

end UsageError

end Roster
