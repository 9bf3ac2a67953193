import Roster.Json.Reader.Basic
import Roster.Text.Utf8
/-!
# Reading strings

A string ends at the next quote that is not escaped. Its bytes have to be UTF-8, and escapes for
characters outside the basic plane come in pairs of surrogates.
-/

namespace Roster.Json

/-- The value of a hexadecimal digit. -/
def hexValue? (b : UInt8) : Option Nat :=
  if isDigit b then some (b.toNat - 48)
  else if 65 ≤ b ∧ b ≤ 70 then some (b.toNat - 55)
  else if 97 ≤ b ∧ b ≤ 102 then some (b.toNat - 87)
  else none

/-- Reads the four digits of a `\u` escape. -/
def readUnit (text : Bytes) : Read Nat :=
  match text with
  | a :: b :: c :: d :: rest =>
    match hexValue? a, hexValue? b, hexValue? c, hexValue? d with
    | some a, some b, some c, some d => .ok (((a * 16 + b) * 16 + c) * 16 + d, rest)
    | _, _, _, _ => stop .invalidEscape rest
  | _ => stop .endInString []

/-- Reads a `\u` escape past the `u`, together with its second half where it needs one. -/
def readCodePoint (text : Bytes) : Except Fault (Char × Bytes) := do
  let (n, rest) ← readUnit text
  if 0xDC00 ≤ n ∧ n ≤ 0xDFFF then stop .loneSurrogate rest
  else if n < 0xD800 ∨ 0xDBFF < n then .ok (Char.ofNat n, rest)
  else
    match rest with
    | [] => stop .endInString []
    | 92 :: [] => stop .endInString []
    | 92 :: 117 :: rest => do
      let (low, rest) ← readUnit rest
      if low < 0xDC00 ∨ 0xDFFF < low then stop .loneSurrogate rest
      else .ok (Char.ofNat ((n - 0xD800) * 1024 + (low - 0xDC00) + 0x10000), rest)
    | 92 :: rest => blame .endOfHexEscape rest
    | _ => blame .endOfHexEscape rest

/-- The character that a one-letter escape stands for. -/
def shortEscape? (b : UInt8) : Option Char :=
  if b = 34 then some '"'
  else if b = 92 then some '\\'
  else if b = 47 then some '/'
  else if b = 98 then some '\x08'
  else if b = 102 then some '\x0c'
  else if b = 110 then some '\n'
  else if b = 114 then some '\r'
  else if b = 116 then some '\t'
  else none

/-- Reads an escape, past its backslash. -/
def readEscape (text : Bytes) : Read Char :=
  match text with
  | [] => stop .endInString []
  | 117 :: rest => readCodePoint rest
  | b :: rest =>
    match shortEscape? b with
    | some c => .ok (c, rest)
    | none => blame .invalidEscape text

/-- A byte that may stand for itself in a string. -/
def isPlain (b : UInt8) : Bool := 32 ≤ b && b != 34 && b != 92

/-- Bytes that are not UTF-8 are reported when the plain stretch they stand in has an end. -/
def badBytes {α : Type} (text : Bytes) : Except Fault α :=
  match text.dropWhile isPlain with
  | [] => stop .endInString []
  | b :: rest =>
    if b < 32 then blame .controlCharacter (b :: rest) else blame .invalidCodePoint text

/-- Reads the rest of a string, past its opening quote. -/
def readTextUpTo : Nat → Bytes → Except Fault (List Char × Bytes)
  | 0, _ => stop .endInString []
  | fuel + 1, text =>
    match text with
    | [] => stop .endInString []
    | b :: rest =>
      if b = 34 then .ok ([], rest)
      else if b = 92 then do
        let (c, rest) ← readEscape rest
        let (cs, rest) ← readTextUpTo fuel rest
        .ok (c :: cs, rest)
      else if b < 32 then blame .controlCharacter text
      else
        match Text.Utf8.takeChar? text with
        | none => badBytes text
        | some (c, rest) => do
          let (cs, rest) ← readTextUpTo fuel rest
          .ok (c :: cs, rest)

/-- Every step consumes a byte, so the length of the text bounds the steps. -/
def readText (text : Bytes) : Except Fault (String × Bytes) := do
  let (cs, rest) ← readTextUpTo (text.length + 1) text
  .ok (String.ofList cs, rest)

end Roster.Json
