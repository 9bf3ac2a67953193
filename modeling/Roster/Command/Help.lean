import Roster.Command.Options
/-!
# Help

Every command can say what it is for and how it is used. A command that lists other commands says
the same at any length; the listing has a summary and a long page.
-/

namespace Roster

/-- The program itself, the group of commands on instances, and the listing. -/
inductive Command where
  | fleet
  | kafka
  | list
  deriving Repr, DecidableEq

/-- What usage is about: a command, or the command that explains the commands below another. -/
inductive Topic where
  | command (c : Command)
  | help (c : Command)
  deriving Repr, DecidableEq

namespace Command

def version : String := "kfleet 0.3.0\n"

/-- The words that lead to a command. -/
def path : Command → String
  | fleet => "kfleet"
  | kafka => "kfleet kafka"
  | list => "kfleet kafka list"

def about : Command → String
  | fleet => "Manage your fleet of Kafka instances"
  | kafka => "View and manage Kafka instances"
  | list => "List Kafka instances"

/-- The command of a name below another, aliases included. -/
def sub? : Command → String → Option Command
  | fleet, "kafka" => some kafka
  | kafka, "list" => some list
  | kafka, "ls" => some list
  | _, _ => none

/-- Whether commands stand below a command; one of them must then be given. -/
def hasCommands : Command → Bool
  | fleet | kafka => true
  | list => false

def form (c : Command) : String := c.path ++ if c.hasCommands then " <COMMAND>" else " [OPTIONS]"

/-! ### Pages -/

def helpAbout : String := "Print this message or the help of the given subcommand(s)"

/-- Names with what is said of them, in two columns. -/
def columns (rows : List (String × String)) : String :=
  let width := (rows.map (·.1.length)).foldl max 0
  String.join (rows.map fun (name, text) =>
    "  " ++ name ++ String.ofList (List.replicate (width - name.length + 2) ' ') ++ text ++ "\n")

/-- The commands below a command. -/
def commandRows : Command → List (String × String)
  | fleet => [("kafka", kafka.about), ("help", helpAbout)]
  | kafka => [("list", list.about ++ " [alias: ls]"), ("help", helpAbout)]
  | list => []

def helpFlag : String := "-h, --help"

/-- The page of a command with commands below it; only that of the program knows a version, and it
names its form without a title. -/
def groupPage (c : Command) : String :=
  c.about ++ "\n\n" ++ (if c = fleet then "" else "Usage: ") ++ c.form ++ "\n\nCommands:\n"
    ++ columns c.commandRows ++ "\nOptions:\n"
    ++ columns ((helpFlag, "Print help") ::
        if c = fleet then [("-V, --version", "Print version")] else [])

/-- How an option is introduced: its letter, if it has one, and its name. -/
def optionLabel (o : ListOption) : String :=
  (if o = .output then "-o, " else "    ") ++ o.written

/-- The options that are advertised, with what is said of them. -/
def advertised : List (ListOption × String) :=
  ListOption.all.filterMap fun o => o.about?.map (o, ·)

def listSummary : String :=
  list.about ++ "\n\nUsage: " ++ list.form ++ "\n\nOptions:\n"
    ++ columns (advertised.map (fun (o, about) =>
        (optionLabel o, about ++ (o.remark?.elim "" (" " ++ ·))))
      ++ [(helpFlag, "Print help (see more with '--help')")])

/-- One entry of the long page: what is said stands below its name, paragraph by paragraph. -/
def entry (label : String) (paragraphs : List String) : String :=
  "  " ++ label ++ "\n" ++
    "          \n".intercalate (paragraphs.map fun p => "          " ++ p ++ "\n")

def listPage : String :=
  list.about ++ "\n\nShows the instances you own with the cluster each one runs on. "
    ++ "The instance selected in the current context is marked.\n\nUsage: " ++ list.form
    ++ "\n\nOptions:\n"
    ++ "\n".intercalate (advertised.map (fun (o, about) =>
        entry (optionLabel o) (about :: o.remark?.toList))
      ++ [entry helpFlag ["Print help (see a summary with '-h')"]])

end Command

namespace Topic

/-- How what a topic is about is used. -/
def form : Topic → String
  | command c => c.form
  | help c => c.path ++ " help [COMMAND]..."

/-- Where more is said; a command that only explains has no help of its own. -/
def pointer : Topic → String
  | command _ => "\n\nFor more information, try '--help'.\n"
  | help _ => "\n"

/-- All that is said of a topic. -/
def page : Topic → String
  | command .list => Command.listPage
  | command c => c.groupPage
  | help c =>
    Command.helpAbout ++ "\n\nUsage: " ++ form (help c)
      ++ "\n\nArguments:\n  [COMMAND]...  Print help for the subcommand(s)\n"

/-- What is said of a topic in short. -/
def summary : Topic → String
  | command .list => Command.listSummary
  | t => t.page

end Topic

end Roster
