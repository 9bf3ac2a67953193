import Roster.Json.Reader.Basic
import Roster.Json.Value
/-!
# Reading numbers

An integer that fits in 64 bits is kept exactly. Any other number becomes a double: the leading
digits that fit in 64 bits make a whole number, which is then multiplied or divided by powers of
ten.
-/

namespace Roster.Json

/-- The greatest unsigned 64-bit number. -/
def maxWord : Nat := 18446744073709551615

/-- Appends digits to a number while it stays within 64 bits; also gives the digits that did not
fit. -/
def absorb (n : Nat) : Bytes → Nat × Bytes
  | [] => (n, [])
  | d :: rest =>
    let next := n * 10 + digitValue d
    if next ≤ maxWord then absorb next rest else (n, d :: rest)

/-- Divides, `x / 10^e`, in steps that a power of ten can express; past the smallest double it stays
zero. -/
def divideByTens (x : Float) (e : Nat) : Nat → Float
  | 0 => x
  | steps + 1 =>
    if e ≤ 308 then x / Float.ofScientific 1 false e
    else if x == 0.0 then x
    else divideByTens (x / 1e308) (e - 308) steps

/-- The double for `significand · 10^exponent`, `none` when it is too large. -/
def scaled? (significand : Nat) (exponent : Int) : Option Float :=
  let x := significand.toUInt64.toFloat
  if 0 ≤ exponent then
    if exponent ≤ 308 then
      let y := x * Float.ofScientific 1 false exponent.toNat
      if y.isInf then none else some y
    else if significand = 0 then some x
    else none
  else some (divideByTens x (-exponent).toNat 8)

def signed (positive : Bool) (x : Float) : Float := if positive then x else -x

/-- A double from its parts, read up to `rest`. -/
def realOfParts (positive : Bool) (significand : Nat) (exponent : Int) (rest : Bytes) :
    Read Number :=
  match scaled? significand exponent with
  | some x => .ok (.real (signed positive x), rest)
  | none => stop .numberOutOfRange rest

/-- The digits of an exponent as a number; `none` once it passes 31 bits, with the digits after the
one that did it. -/
def absorbExponent (e : Nat) : Bytes → Option Nat × Bytes
  | [] => (some e, [])
  | d :: rest =>
    let next := e * 10 + digitValue d
    if next ≤ 2147483647 then absorbExponent next rest else (none, rest)

/-- Reads an exponent, past its `e`. -/
def readExponent (positive : Bool) (significand : Nat) (start : Int) (text : Bytes) : Read Number :=
  let (negative, text) := match text with
    | 43 :: rest => (false, rest)
    | 45 :: rest => (true, rest)
    | _ => (false, text)
  match text with
  | [] => stop .endInValue []
  | d :: _ =>
    if !isDigit d then blame .invalidNumber text
    else
      let rest := text.dropWhile isDigit
      match absorbExponent 0 (text.takeWhile isDigit) with
      | (some e, _) =>
        realOfParts positive significand (if negative then start - e else start + e) rest
      | (none, spare) =>
        if significand ≠ 0 ∧ negative = false then stop .numberOutOfRange (spare ++ rest)
        else .ok (.real (signed positive 0.0), rest)

/-- Goes on after the digits before or behind the point. -/
def readScale (positive : Bool) (significand : Nat) (exponent : Int) (text : Bytes) : Read Number :=
  match text with
  | 101 :: rest | 69 :: rest => readExponent positive significand exponent rest
  | _ => realOfParts positive significand exponent text

/-- Reads the digits behind the point. -/
def readFraction (positive : Bool) (significand : Nat) (exponent : Int) (text : Bytes) :
    Read Number :=
  let digits := text.takeWhile isDigit
  let rest := text.dropWhile isDigit
  if digits.isEmpty then
    match rest with
    | [] => stop .endInValue []
    | _ => blame .invalidNumber rest
  else
    let (n, spare) := absorb significand digits
    readScale positive n (exponent - ((digits.length - spare.length : Nat) : Int)) rest

/-- What the digits before the point stand for when nothing follows them. Negative zero and what
does not fit into 64 signed bits become doubles. -/
def wholeNumber (positive : Bool) (n : Nat) : Number :=
  if positive then .int n
  else if 0 < n ∧ n ≤ 9223372036854775808 then .int (-n)
  else .real (-n.toUInt64.toFloat)

/-- Reads a number, past its minus sign if it has one. -/
def readNumber (positive : Bool) (text : Bytes) : Read Number :=
  match text with
  | [] => stop .endInValue []
  | d :: rest =>
    if d = 48 then
      match rest with
      | 46 :: rest => readFraction positive 0 0 rest
      | e :: after =>
        if isDigit e then blame .invalidNumber rest
        else if e = 101 ∨ e = 69 then readExponent positive 0 0 after
        else .ok (wholeNumber positive 0, rest)
      | [] => .ok (wholeNumber positive 0, [])
    else if isDigit d then
      let (n, spare) := absorb 0 (text.takeWhile isDigit)
      let rest := text.dropWhile isDigit
      match rest with
      | 46 :: rest => readFraction positive n spare.length rest
      | 101 :: rest | 69 :: rest => readExponent positive n spare.length rest
      | _ =>
        if spare.isEmpty then .ok (wholeNumber positive n, rest)
        else realOfParts positive n spare.length rest
    else blame .invalidNumber text

end Roster.Json
