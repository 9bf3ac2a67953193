import Roster.Json.Reader.Skip
/-!
# Records

A record names the fields a program wants from an object and how each is read. The same description
reads a record from text, where places are known and nothing is kept of other members, and from a
value that has been read already. Its fields may also stand in a list, in their order.
-/

namespace Roster.Json

/-- A kind of value: how to read it from text and how to take it from a value. -/
structure Shape (α : Type) where
  read : (depth : Nat) → Bytes → Except Fault (α × Bytes)
  ofJson : Json → Except Mismatch α

/-- One field of a record. A field without a value for its absence has to be there. -/
structure Field (α : Type) where
  name : String
  shape : Shape α
  absent : Option α

structure Record (α : Type) where
  title : String
  fields : List (Field α)

/-- What a value is when it is not what was expected. -/
def found : Json → Found
  | .null => .null
  | .bool b => .bool b
  | .number (.int i) => .int i
  | .number (.real x) => .real x
  | .string s => .text s
  | .array _ => .sequence
  | .object _ => .map

/-- Refuses the value in front. A scalar is read to be named, a container is only looked at. -/
def refuseKind {α : Type} (expected : String) (text : Bytes) : Except Fault α :=
  let refuse (f : Found) (rest : Bytes) : Except Fault α :=
    stop (.mismatch (.kind f expected)) rest
  match text with
  | [] => stop .expectedValue []
  | b :: rest =>
    if b = 110 then do refuse .null (← readWord "ull".toList rest)
    else if b = 116 then do refuse (.bool true) (← readWord "rue".toList rest)
    else if b = 102 then do refuse (.bool false) (← readWord "alse".toList rest)
    else if b = 45 then do
      let (n, rest) ← readNumber false rest
      refuse (found (.number n)) rest
    else if isDigit b then do
      let (n, rest) ← readNumber true text
      refuse (found (.number n)) rest
    else if b = 34 then do
      let (s, rest) ← readText rest
      refuse (.text s) rest
    else if b = 91 then refuse .sequence text
    else if b = 123 then refuse .map text
    else blame .expectedValue text

/-! ### Texts and lists -/

/-- A string. -/
def Shape.text : Shape String where
  read _ text :=
    match skipSpace text with
    | [] => stop .endInValue []
    | b :: rest => if b = 34 then readText rest else refuseKind "a string" (b :: rest)
  ofJson
    | .string s => .ok s
    | v => .error (.kind (found v) "a string")

/-- A value or null. -/
def Shape.nullable {α : Type} (s : Shape α) : Shape (Option α) where
  read depth text :=
    match skipSpace text with
    | 110 :: rest => do .ok (none, ← readWord "ull".toList rest)
    | text => do
      let (v, rest) ← s.read depth text
      .ok (some v, rest)
  ofJson
    | .null => .ok none
    | v => do .ok (some (← s.ofJson v))

/-- A shape whose values are seen in another way. -/
def Shape.map {α β : Type} (f : α → β) (s : Shape α) : Shape β where
  read depth text := do
    let (v, rest) ← s.read depth text
    .ok (f v, rest)
  ofJson v := do .ok (f (← s.ofJson v))

/-- Elements up to the end of the list, which is left standing. -/
def readElements {α : Type} (read : Bytes → Except Fault (α × Bytes)) :
    Nat → Bool → Bytes → Except Fault (List α × Bytes)
  | 0, _, text => stop .endInList text
  | fuel + 1, first, text => do
    match ← nextElement first text with
    | none => .ok ([], skipSpace text)
    | some text =>
      let (v, rest) ← read text
      let (vs, rest) ← readElements read fuel false rest
      .ok (v :: vs, rest)

def Shape.list {α : Type} (s : Shape α) : Shape (List α) where
  read depth text :=
    match skipSpace text with
    | [] => stop .endInValue []
    | b :: rest =>
      if b = 91 then
        if depth ≤ 1 then blame .nestedTooDeep (b :: rest)
        else do
          let (vs, rest) ← readElements (s.read (depth - 1)) (rest.length + 1) true rest
          .ok (vs, ← endList rest)
      else refuseKind "a sequence" (b :: rest)
  ofJson
    | .array items => items.mapM s.ofJson
    | v => .error (.kind (found v) "a sequence")

/-! ### Records -/

namespace Record

variable {α : Type}

/-- What the record is called when too few of its fields are listed. -/
def sized (r : Record α) : String :=
  r.title ++ " with " ++ toString r.fields.length ++
    (if r.fields.length = 1 then " element" else " elements")

/-- The values of the fields in their order, from the members that were read. -/
def complete (seen : List (String × α)) : List (Field α) → Except Mismatch (List α)
  | [] => .ok []
  | f :: fields => do
    let v ← match seen.lookup f.name, f.absent with
      | some v, _ => .ok v
      | none, some v => .ok v
      | none, none => .error (.missing f.name)
    .ok (v :: (← complete seen fields))

/-! A mismatch in a record is reported behind its closing bracket if that comes next, else in front
of whatever comes next. -/

def pastObjectEnd (text : Bytes) : Bytes :=
  match skipSpace text with
  | 125 :: rest => rest
  | rest => rest

def pastListEnd (text : Bytes) : Bytes :=
  match skipSpace text with
  | 93 :: rest => rest
  | 44 :: rest => skipSpace rest
  | rest => rest

/-- Members up to the end of the object, which is left standing. -/
def readFields (r : Record α) (depth : Nat) :
    Nat → Bool → List (String × α) → Bytes → Except Fault (List (String × α) × Bytes)
  | 0, _, _, text => stop .endInObject text
  | fuel + 1, first, seen, text => do
    match ← nextName first text with
    | none => .ok (seen, skipSpace text)
    | some text =>
      let (name, rest) ← readText text
      match r.fields.find? (·.name = name) with
      | none =>
        let rest ← skipValue (← pastColon rest)
        readFields r depth fuel false seen rest
      | some f =>
        if (seen.lookup name).isSome then stop (.mismatch (.duplicate name)) (pastObjectEnd rest)
        else
          let (v, rest) ← f.shape.read depth (← pastColon rest)
          readFields r depth fuel false (seen ++ [(name, v)]) rest

/-- Elements of a list as the fields in their order; `index` counts the fields passed. -/
def readListed (r : Record α) (depth : Nat) :
    List (Field α) → Nat → Bytes → Except Fault (List α × Bytes)
  | [], _, text => .ok ([], text)
  | f :: fields, index, text => do
    match ← nextElement (index = 0) text with
    | some text =>
      let (v, rest) ← f.shape.read depth text
      let (vs, rest) ← readListed r depth fields (index + 1) rest
      .ok (v :: vs, rest)
    | none =>
      match (f :: fields).mapM (·.absent) with
      | some vs => .ok (vs, skipSpace text)
      | none => stop (.mismatch (.length index r.sized)) (pastListEnd text)

/-- Reads a record from text. -/
def read (r : Record α) (depth : Nat) (text : Bytes) : Except Fault (List α × Bytes) :=
  match skipSpace text with
  | [] => stop .endInValue []
  | b :: rest =>
    if b = 91 then
      if depth ≤ 1 then blame .nestedTooDeep (b :: rest)
      else do
        let (vs, rest) ← r.readListed (depth - 1) r.fields 0 rest
        .ok (vs, ← endList rest)
    else if b = 123 then
      if depth ≤ 1 then blame .nestedTooDeep (b :: rest)
      else do
        let (seen, rest) ← r.readFields (depth - 1) (rest.length + 1) true [] rest
        match complete seen r.fields with
        | .ok vs => .ok (vs, ← endObject rest)
        | .error m => stop (.mismatch m) (pastObjectEnd rest)
    else refuseKind r.title (b :: rest)

/-- The wanted members of an object, in the order in which they stand there. -/
def membersOf (r : Record α) : List (String × Json) → Except Mismatch (List (String × α))
  | [] => .ok []
  | (name, v) :: rest =>
    match r.fields.find? (·.name = name) with
    | none => membersOf r rest
    | some f => do
      let a ← f.shape.ofJson v
      .ok ((name, a) :: (← membersOf r rest))

/-- Listed values as the fields in their order; `index` counts the fields passed. Gives the values
and how many elements were left over. -/
def listedOf (r : Record α) : List (Field α) → Nat → List Json → Except Mismatch (List α × Nat)
  | [], _, left => .ok ([], left.length)
  | f :: fields, index, v :: left => do
    let a ← f.shape.ofJson v
    let (rest, surplus) ← listedOf r fields (index + 1) left
    .ok (a :: rest, surplus)
  | f :: fields, index, [] =>
    match (f :: fields).mapM (·.absent) with
    | some vs => .ok (vs, 0)
    | none => .error (.length index r.sized)

/-- Takes a record from a value. -/
def ofJson (r : Record α) : Json → Except Mismatch (List α)
  | .array items => do
    let (vs, surplus) ← r.listedOf r.fields 0 items
    if surplus = 0 then .ok vs else .error (.length items.length "fewer elements in array")
  | .object members => do complete (← r.membersOf members) r.fields
  | v => .error (.kind (found v) r.title)

def shape (r : Record α) : Shape (List α) := ⟨r.read, r.ofJson⟩

end Record

end Roster.Json
