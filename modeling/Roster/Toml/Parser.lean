import Roster.Toml.Number
/-!
# Reading values and keys

Values nest up to a fixed depth. An array may be spread over lines; a table between braces stays on
one, and its dotted keys make tables inside it.
-/

namespace Roster.Toml

/-! ### Keys -/

def isBareKeyChar (c : Char) : Bool := c.isAlphanum || c == '_' || c == '-'

def readSimpleKey : Reader String := fun s =>
  match s with
  | '"' :: rest =>
    (readBasic (rest.length + 1) rest).map fun (cs, rest) => (String.ofList cs, rest)
  | '\'' :: rest => (readLiteral rest).map fun (cs, rest) => (String.ofList cs, rest)
  | _ =>
    let name := s.takeWhile isBareKeyChar
    if name.isEmpty then none else some (String.ofList name, s.drop name.length)

/-- Values and keys nest less deeply than this. -/
def maxDepth : Nat := 80

/-- Keys separated by dots, with blanks around each. -/
def readKeys : (fuel : Nat) → Reader (List Key)
  | 0, _ => none
  | fuel + 1, s => do
    let start := skipBlanks s
    let (name, stop) ← readSimpleKey start
    let key : Key := ⟨name, start.length, stop.length⟩
    match skipBlanks stop with
    | '.' :: rest => do
      let (keys, rest) ← readKeys fuel rest
      some (key :: keys, rest)
    | rest => some ([key], rest)

def readPath : Reader (List Key) := readKeys (maxDepth - 1)

/-! ### Adding to tables -/

/-- Changes what is inside the table under a key, which is made where it does not exist. The keys of a
dotted key may not enter a table that is complete. -/
def changeUnder {α : Type} (isDotted : Bool) (inside : Role → Entries → Option (Entries × α))
    (key : Key) : Entries → Option (Entries × α)
  | [] => do
    let role : Role := if isDotted then .dotted else .implied
    let (inner, a) ← inside role []
    some ([(key, .table role none inner)], a)
  | (k, v) :: rest =>
    if k.name = key.name then
      match v with
      | .table role span inner =>
        if role = .inline ∨ (isDotted ∧ role = .headed) then none
        else do
          let (inner, a) ← inside role inner
          some ((k, .table role span inner) :: rest, a)
      | .tables span items =>
        match items.reverse with
        | .table role place inner :: before => do
          let (inner, a) ← inside role inner
          some ((k, .tables span (before.reverse ++ [.table role place inner])) :: rest, a)
        | _ => none
      | _ => none
    else do
      let (rest, a) ← changeUnder isDotted inside key rest
      some ((k, v) :: rest, a)

/-- Goes to the table at a path and changes its entries. -/
def changeAt {α : Type} (isDotted : Bool) (change : Role → Entries → Option (Entries × α)) :
    List Key → Role → Entries → Option (Entries × α)
  | [], role, entries => change role entries
  | key :: path, _, entries => changeUnder isDotted (changeAt isDotted change path) key entries

/-- Adds an entry at a path of keys. The table it goes into may only be made of dotted keys, and the
entry has to be new. -/
def addEntry (path : List Key) (v : Value) (entries : Entries) : Option Entries := do
  let last ← path.getLast?
  let outer := path.dropLast
  let change (role : Role) (inner : Entries) : Option (Entries × Unit) :=
    if (role = .dotted) = outer.isEmpty ∨ (inner.get? last.name).isSome then none
    else some (inner ++ [(last, v)], ())
  (changeAt true change outer .headed entries).map Prod.fst

/-! ### Values -/

def readBool : Reader Bool := fun s =>
  match s with
  | 't' :: 'r' :: 'u' :: 'e' :: rest => some (true, rest)
  | 'f' :: 'a' :: 'l' :: 's' :: 'e' :: rest => some (false, rest)
  | _ => none

/-- A value that has no parts. -/
def readScalar : Reader Value := fun s => do
  let span (rest : List Char) : Span := ⟨s.length, rest.length⟩
  match s with
  | [] => none
  | c :: _ =>
    if c = '"' ∨ c = '\'' then
      let (t, rest) ← readString s
      some (.string (span rest) t, rest)
    else if c = 't' ∨ c = 'f' then
      let (b, rest) ← readBool s
      some (.bool (span rest) b, rest)
    else if startsMoment s then
      let (t, rest) ← readMoment s
      some (.moment (span rest) (String.ofList t), rest)
    else if startsDouble s then
      let (x, rest) ← readDouble s
      some (.real (span rest) x, rest)
    else
      match readNamedDouble s with
      | some (x, rest) => some (.real (span rest) x, rest)
      | none =>
        let (n, rest) ← readInteger s
        some (.integer (span rest) n, rest)

mutual

/-- A value; `depth` is how many more containers may be opened. -/
def readValue : (fuel depth : Nat) → List Char → Option (Value × List Char)
  | 0, _, _ => none
  | fuel + 1, depth, s =>
    match s with
    | '[' :: rest => do
      if depth ≤ 1 then none
      let (items, stop) ← readItems fuel (depth - 1) rest
      some (.array ⟨s.length, stop.length⟩ items, stop)
    | '{' :: rest => do
      if depth ≤ 1 then none
      let inside := skipBlanks rest
      let (entries, stop) ← match inside with
        | '}' :: stop => some ([], stop)
        | _ => readEntries fuel (depth - 1) [] inside
      some (.table .inline (some ⟨s.length, stop.length⟩) entries, stop)
    | _ => readScalar s

/-- The elements of an array and its closing bracket. -/
def readItems : (fuel depth : Nat) → List Char → Option (List Value × List Char)
  | 0, _, _ => none
  | fuel + 1, depth, s => do
    match ← skipLines (s.length + 1) s with
    | ']' :: rest => some ([], rest)
    | s =>
      let (v, rest) ← readValue fuel depth s
      match ← skipLines (rest.length + 1) rest with
      | ']' :: rest => some ([v], rest)
      | ',' :: rest => do
        let (vs, rest) ← readItems fuel depth rest
        some (v :: vs, rest)
      | _ => none

/-- The entries of a table between braces and its closing brace. -/
def readEntries : (fuel depth : Nat) → Entries → List Char → Option (Entries × List Char)
  | 0, _, _, _ => none
  | fuel + 1, depth, before, s => do
    let (path, rest) ← readPath s
    let rest ← readMark '=' rest
    let (v, rest) ← readValue fuel depth (skipBlanks rest)
    let entries ← addEntry path v before
    match skipBlanks rest with
    | '}' :: rest => some (entries, rest)
    | ',' :: rest => readEntries fuel depth entries rest
    | _ => none

end

end Roster.Toml
