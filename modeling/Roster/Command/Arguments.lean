import Roster.Command.UsageError
import Roster.Command.Word
/-!
# Arguments

Words are read from left to right. An option is taken into account, and its value judged, when the
next option or the end is reached, so of two mistakes the first one counts, unless the later word
means nothing at all. Behind a lone `--` nothing is an option or a command any more, and there is
nothing else to name.
-/

namespace Roster

/-- What is asked of a listing on the command line. -/
structure Arguments where
  format : Format
  page : Count
  limit : Count
  search : Option String
  clusterApiUrl : Option String
  accessToken : Option String
  deriving Repr, DecidableEq

namespace Arguments

/-- A listing that nothing more is said of. -/
def default : Arguments := ⟨.table, .firstPage, .defaultLimit, none, none, none⟩

/-- The count that is the value of an option. -/
def count (o : ListOption) (value : String) : Except UsageError Count :=
  (Count.parse value).mapError (.notACount o value)

def readFormat (value : String) : Except UsageError Format :=
  if value.isEmpty then .error (.valueMissing .output)
  else match Format.ofName? value true with
    | some f => .ok f
    | none => .error (.notAFormat value)

/-- Takes the value of an option. -/
def set (a : Arguments) (o : ListOption) (value : String) : Except UsageError Arguments :=
  match o with
  | .output => (readFormat value).map ({ a with format := · })
  | .page => (count o value).map ({ a with page := · })
  | .limit => (count o value).map ({ a with limit := · })
  | .search => .ok { a with search := some value }
  | .clusterApiUrl => .ok { a with clusterApiUrl := some value }
  | .accessToken => .ok { a with accessToken := some value }

/-! ### Options of a listing -/

/-- What has been read of a listing: what is known, from which options, and an option that is not
yet taken into account, with its value if that has come. -/
structure Reading where
  arguments : Arguments
  given : List ListOption
  pending : Option (ListOption × Option String)
  deriving Repr, DecidableEq

namespace Reading

def start : Reading := ⟨default, [], none⟩

/-- Takes an option with its value into account, which is done once for each. -/
def take (r : Reading) (o : ListOption) (value : String) : Except UsageError Reading :=
  if o ∈ r.given then .error (.repeated o)
  else (r.arguments.set o value).map (⟨·, r.given ++ [o], none⟩)

/-- Takes the pending option into account. -/
def settle (r : Reading) : Except UsageError Reading :=
  match r.pending with
  | none => .ok r
  | some (o, none) => .error (.valueMissing o)
  | some (o, some value) => r.take o value

/-- The options that count as given once the pending one does. -/
def allGiven (r : Reading) : List ListOption :=
  match r.pending with
  | some (o, some _) => if o ∈ r.given then r.given else r.given ++ [o]
  | _ => r.given

/-- An option, with the value that the same word gives. -/
def option (r : Reading) (o : ListOption) (value : Option (List Char)) :
    Except UsageError Reading := do
  let r ← r.settle
  match value with
  | some value => r.take o (String.ofList value)
  | none => .ok { r with pending := some (o, none) }

/-- A word that is no option: the value that is waited for, or nothing. -/
def plain (r : Reading) (text : String) : Except UsageError Reading :=
  match r.pending with
  | some (o, none) => .ok { r with pending := some (o, some text) }
  | _ => .error (.unknownArgument .list text [])

end Reading

/-! ### Flags -/

/-- What a word by name means that is no option with a value. -/
def flag (c : Command) (given all : List ListOption) (name : List Char)
    (value : Option (List Char)) : UsageError :=
  let answer? : Option UsageError :=
    if name = "help".toList then some (.help (.command c) true)
    else if name = "version".toList ∧ c = .fleet then some .version
    else none
  let word := String.ofList ('-' :: '-' :: name)
  match answer?, value with
  | none, _ => .unknownArgument c word all
  | some answer, none => answer
  | some _, some value => .unwantedValue c word (String.ofList value) given

/-- What a word by its letter means that is no option with a value. -/
def letter (c : Command) (l : Char) : UsageError :=
  if l = 'h' then .help (.command c) false
  else if l = 'V' ∧ c = .fleet then .version
  else .unknownArgument c (String.ofList ['-', l]) []

/-- Ends reading: a mistake in the option before comes first, if the word that ends it is an answer.
-/
def Reading.stop (r : Reading) (e : UsageError) : UsageError :=
  match e.isAnswer, r.settle with
  | true, .error before => before
  | _, _ => e

/-- Reads one word of a listing. -/
def Reading.word (r : Reading) (text : String) : Except UsageError Reading :=
  match Word.ofText text with
  | .named name value =>
    match ListOption.ofName? name with
    | some o => r.option o value
    | none => .error (r.stop (flag .list r.given r.allGiven name value))
  | .lettered l rest =>
    match ListOption.ofLetter? l with
    | some o => r.option o (Word.attached? rest)
    | none => .error (r.stop (letter .list l))
  | .plain _ => r.plain text

/-- Reads the words of a listing. -/
def Reading.words : Reading → List String → Except UsageError Arguments
  | r, [] => r.settle.map (·.arguments)
  | r, text :: rest =>
    if text = "--" then
      match rest with
      | [] => r.settle.map (·.arguments)
      | other :: _ => .error (.unknownArgument .list other [])
    else do words (← r.word text) rest

/-! ### Commands -/

/-- The name of the command that explains others. -/
def helpName : String := "help"

/-- What is asked for by naming the commands to explain. -/
def explain : Topic → List String → UsageError
  | topic, [] => .help topic true
  | .help c, name :: _ => .unknownCommand (.help c) name
  | .command c, name :: rest =>
    if name = helpName ∧ c.hasCommands then explain (.help c) rest
    else match c.sub? name with
      | some c => explain (.command c) rest
      | none => .unknownCommand (.command c) name

/-- What the words behind a command with commands below it mean when the first names none of these.
-/
def noCommand (c : Command) (text : String) (rest : List String) : UsageError :=
  if text = helpName then explain (.command c) rest
  else if text = "--" then
    match rest with
    | [] => .commandMissing c
    | other :: _ =>
      if other = helpName ∨ (c.sub? other).isSome then .hiddenCommand c other
      else .unknownCommand (.command c) other
  else match Word.ofText text with
    | .named name value => flag c [] [] name value
    | .lettered l _ => letter c l
    | .plain _ => .unknownCommand (.command c) text

/-- Reads the words behind a command. -/
def parseBelow : Command → List String → Except UsageError Arguments
  | .list, words => Reading.start.words words
  | c, [] => .error (.commandMissing c)
  | c, name :: rest =>
    match c.sub? name with
    | some c => parseBelow c rest
    | none => .error (noCommand c name rest)

/-- Reads the words behind the name of the program. -/
def parse (words : List String) : Except UsageError Arguments := parseBelow .fleet words

end Arguments

end Roster
