import Roster.Json.Reader.Number
import Roster.Json.Reader.Text
/-!
# Reading values

Containers nest at most 127 deep. The reader of values and the readers of the members of a container
call each other; each call that does not end consumes a byte, so a bound on the calls comes from the
length of the text.
-/

namespace Roster.Json

/-- How many containers may be open at once, plus one. -/
def maxDepth : Nat := 128

/-- Moves to the next element of a list; `none` at the end of the list, which is left standing.
`first` is set while no element has been read. -/
def nextElement (first : Bool) (text : Bytes) : Except Fault (Option Bytes) :=
  match skipSpace text with
  | [] => stop .endInList []
  | b :: rest =>
    if b = 93 then .ok none
    else if first then .ok (some (b :: rest))
    else if b = 44 then
      match skipSpace rest with
      | [] => stop .endInValue []
      | c :: rest => if c = 93 then blame .trailingComma (c :: rest) else .ok (some (c :: rest))
    else blame .expectedListCommaOrEnd (b :: rest)

/-- Moves past the opening quote of the next name; `none` at the end of the object, which is left
standing. -/
def nextName (first : Bool) (text : Bytes) : Except Fault (Option Bytes) :=
  match skipSpace text with
  | [] => stop .endInObject []
  | b :: rest =>
    if b = 125 then .ok none
    else if first then
      if b = 34 then .ok (some rest) else blame .keyNotString (b :: rest)
    else if b = 44 then
      match skipSpace rest with
      | [] => stop .endInValue []
      | c :: after =>
        if c = 34 then .ok (some after)
        else if c = 125 then blame .trailingComma (c :: after)
        else blame .keyNotString (c :: after)
    else blame .expectedObjectCommaOrEnd (b :: rest)

/-- Moves past the colon between a name and its value. -/
def pastColon (text : Bytes) : Except Fault Bytes :=
  match skipSpace text with
  | [] => stop .endInObject []
  | b :: rest => if b = 58 then .ok rest else blame .expectedColon (b :: rest)

/-- Moves past the bracket that ends a list. -/
def endList (text : Bytes) : Except Fault Bytes :=
  match skipSpace text with
  | [] => stop .endInList []
  | b :: rest =>
    if b = 93 then .ok rest
    else if b = 44 then
      match skipSpace rest with
      | [] => stop .trailingCharacters []
      | c :: rest =>
        if c = 93 then blame .trailingComma (c :: rest) else blame .trailingCharacters (c :: rest)
    else blame .trailingCharacters (b :: rest)

/-- Moves past the brace that ends an object. -/
def endObject (text : Bytes) : Except Fault Bytes :=
  match skipSpace text with
  | [] => stop .endInObject []
  | b :: rest =>
    if b = 125 then .ok rest
    else if b = 44 then blame .trailingComma (b :: rest)
    else blame .trailingCharacters (b :: rest)

mutual

/-- Reads a value. `fuel` bounds the calls, `depth` is one more than the containers that may open.
-/
def readValueUpTo : (fuel depth : Nat) → Bytes → Except Fault (Json × Bytes)
  | 0, _, text => stop .endInValue text
  | fuel + 1, depth, text =>
    match skipSpace text with
    | [] => stop .endInValue []
    | b :: rest =>
      if b = 110 then do .ok (.null, ← readWord "ull".toList rest)
      else if b = 116 then do .ok (.bool true, ← readWord "rue".toList rest)
      else if b = 102 then do .ok (.bool false, ← readWord "alse".toList rest)
      else if b = 45 then do
        let (n, rest) ← readNumber false rest
        .ok (.number n, rest)
      else if isDigit b then do
        let (n, rest) ← readNumber true (b :: rest)
        .ok (.number n, rest)
      else if b = 34 then do
        let (s, rest) ← readText rest
        .ok (.string s, rest)
      else if b = 91 then
        if depth ≤ 1 then blame .nestedTooDeep (b :: rest)
        else do
          let (items, rest) ← readItems fuel (depth - 1) true rest
          .ok (.array items, ← endList rest)
      else if b = 123 then
        if depth ≤ 1 then blame .nestedTooDeep (b :: rest)
        else do
          let (members, rest) ← readMembers fuel (depth - 1) true [] rest
          .ok (.object members, ← endObject rest)
      else blame .expectedValue (b :: rest)

/-- Reads the elements of a list up to its end. -/
def readItems : (fuel depth : Nat) → Bool → Bytes → Except Fault (List Json × Bytes)
  | 0, _, _, text => stop .endInList text
  | fuel + 1, depth, first, text => do
    match ← nextElement first text with
    | none => .ok ([], skipSpace text)
    | some text =>
      let (v, rest) ← readValueUpTo fuel depth text
      let (vs, rest) ← readItems fuel depth false rest
      .ok (v :: vs, rest)

/-- Reads the members of an object up to its end, added to those read before. -/
def readMembers : (fuel depth : Nat) → Bool → List (String × Json) → Bytes →
    Except Fault (List (String × Json) × Bytes)
  | 0, _, _, _, text => stop .endInObject text
  | fuel + 1, depth, first, before, text => do
    match ← nextName first text with
    | none => .ok (before, skipSpace text)
    | some text =>
      let (name, rest) ← readText text
      let (v, rest) ← readValueUpTo fuel depth (← pastColon rest)
      readMembers fuel depth false (put name v before) rest

end

/-- More calls than a text of this length can need. -/
def fuelFor (text : Bytes) : Nat := 2 * text.length + 2

def readValue (depth : Nat) (text : Bytes) : Except Fault (Json × Bytes) :=
  readValueUpTo (fuelFor text) depth text

/-- Nothing but white space may follow a document. -/
def endDocument (text : Bytes) : Except Fault Unit :=
  match skipSpace text with
  | [] => .ok ()
  | b :: rest => blame .trailingCharacters (b :: rest)

/-- Reads a whole document with a reader for its value. -/
def wholeDocument {α : Type} (read : Bytes → Except Fault (α × Bytes)) (text : Bytes) :
    Except Refusal α :=
  match (do let (v, rest) ← read text; endDocument rest; .ok v) with
  | .ok v => .ok v
  | .error f => .error (f.refusal text)

/-- A document as a value. -/
def ofBytes (text : Bytes) : Except Refusal Json := wholeDocument (readValue maxDepth) text

end Roster.Json
