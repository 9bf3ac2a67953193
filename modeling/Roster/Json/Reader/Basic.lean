import Roster.Json.Fault
/-!
# Reading JSON text

A reader takes bytes from the front of a text and returns what it read together with the bytes that
are left. When it cannot go on it says why and how much was left, from which the place is computed.
-/

namespace Roster.Json

abbrev Bytes := List UInt8

/-- Why reading stopped: `left` bytes were not consumed, and the place reported lies `ahead` bytes
into them. -/
structure Fault where
  cause : Cause
  left : Nat
  ahead : Nat

/-- The outcome of reading: a value and the bytes after it. -/
abbrev Read (α : Type) := Except Fault (α × Bytes)

/-- Stops in front of `rest`. -/
def stop {α : Type} (cause : Cause) (rest : Bytes) : Except Fault α :=
  .error ⟨cause, rest.length, 0⟩

/-- Stops in front of `rest` and blames its first byte. -/
def blame {α : Type} (cause : Cause) (rest : Bytes) : Except Fault α :=
  .error ⟨cause, rest.length, 1⟩

/-- The place of a fault in the text that was read. -/
def Fault.refusal (text : Bytes) (f : Fault) : Refusal :=
  ⟨f.cause, some (Place.after (text.take (text.length - f.left + f.ahead)))⟩

/-- The byte of an ASCII character. -/
def byte (c : Char) : UInt8 := c.toNat.toUInt8

/-- The four characters that may stand between tokens. -/
def isSpace (b : UInt8) : Bool := b == 32 || b == 10 || b == 9 || b == 13

def skipSpace (text : Bytes) : Bytes := text.dropWhile isSpace

def isDigit (b : UInt8) : Bool := 48 ≤ b && b ≤ 57

def digitValue (b : UInt8) : Nat := b.toNat - 48

/-- Reads the given letters, the rest of a word such as `true`. -/
def readWord : List Char → Bytes → Except Fault Bytes
  | [], text => .ok text
  | _ :: _, [] => stop .endInValue []
  | c :: word, b :: text =>
    if b = byte c then readWord word text else blame .expectedIdent (b :: text)

theorem length_skipSpace_le (text : Bytes) : (skipSpace text).length ≤ text.length :=
  (List.dropWhile_sublist _).length_le

end Roster.Json
