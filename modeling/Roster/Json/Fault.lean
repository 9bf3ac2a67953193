import Roster.Text.Quoted
import Roster.Decimal.Layout
/-!
# What can be wrong with a document

A fault is a cause and a place. Text that is not JSON always has a place, counted in lines and
bytes. A value of the wrong shape has one only when it is found while reading text.
-/

namespace Roster.Json

/-- What stands where something else was expected. -/
inductive Found where
  | null
  | bool (value : Bool)
  | int (value : Int)
  | real (value : Float)
  | text (value : String)
  | sequence
  | map

def Found.describe : Found → String
  | null => "null"
  | bool b => "boolean `" ++ (if b then "true" else "false") ++ "`"
  | int i => "integer `" ++ toString i ++ "`"
  | real x => "floating point `" ++ String.ofList (Decimal.Layout.json.float x) ++ "`"
  | text s => "string " ++ Text.quoted s
  | sequence => "sequence"
  | map => "map"

/-- A value that is JSON but not of the shape asked for. -/
inductive Mismatch where
  | kind (found : Found) (expected : String)
  | length (found : Nat) (expected : String)
  | missing (field : String)
  | duplicate (field : String)

def Mismatch.message : Mismatch → String
  | kind found expected => "invalid type: " ++ found.describe ++ ", expected " ++ expected
  | length n expected => "invalid length " ++ toString n ++ ", expected " ++ expected
  | missing field => "missing field `" ++ field ++ "`"
  | duplicate field => "duplicate field `" ++ field ++ "`"

inductive Cause where
  | endInList
  | endInObject
  | endInString
  | endInValue
  | expectedColon
  | expectedListCommaOrEnd
  | expectedObjectCommaOrEnd
  | expectedIdent
  | expectedValue
  | invalidEscape
  | invalidNumber
  | numberOutOfRange
  | invalidCodePoint
  | controlCharacter
  | keyNotString
  | loneSurrogate
  | trailingComma
  | trailingCharacters
  | endOfHexEscape
  | nestedTooDeep
  | mismatch (mismatch : Mismatch)

def Cause.message : Cause → String
  | endInList => "EOF while parsing a list"
  | endInObject => "EOF while parsing an object"
  | endInString => "EOF while parsing a string"
  | endInValue => "EOF while parsing a value"
  | expectedColon => "expected `:`"
  | expectedListCommaOrEnd => "expected `,` or `]`"
  | expectedObjectCommaOrEnd => "expected `,` or `\x7d`"
  | expectedIdent => "expected ident"
  | expectedValue => "expected value"
  | invalidEscape => "invalid escape"
  | invalidNumber => "invalid number"
  | numberOutOfRange => "number out of range"
  | invalidCodePoint => "invalid unicode code point"
  | controlCharacter => "control character (\\u0000-\\u001F) found while parsing a string"
  | keyNotString => "key must be a string"
  | loneSurrogate => "lone leading surrogate in hex escape"
  | trailingComma => "trailing comma"
  | trailingCharacters => "trailing characters"
  | endOfHexEscape => "unexpected end of hex escape"
  | nestedTooDeep => "recursion limit exceeded"
  | mismatch m => m.message

/-- A place in a text: a line from one, and the bytes passed on that line. -/
structure Place where
  line : Nat
  column : Nat
  deriving Repr, DecidableEq

/-- The place after a byte. -/
def Place.next (p : Place) (b : UInt8) : Place :=
  if b = 10 then ⟨p.line + 1, 0⟩ else ⟨p.line, p.column + 1⟩

/-- The place after some bytes from the beginning. -/
def Place.after (bytes : List UInt8) : Place := bytes.foldl Place.next ⟨1, 0⟩

def Place.describe (p : Place) : String :=
  " at line " ++ toString p.line ++ " column " ++ toString p.column

/-- Why a document was refused, and where if that is known. -/
structure Refusal where
  cause : Cause
  place : Option Place

def Refusal.message (r : Refusal) : String :=
  r.cause.message ++ (r.place.map Place.describe).getD ""

/-- A value of the wrong shape, found in a document that had already been read. -/
def Refusal.ofMismatch (m : Mismatch) : Refusal := ⟨.mismatch m, none⟩

end Roster.Json
