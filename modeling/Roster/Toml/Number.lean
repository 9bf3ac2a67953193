import Roster.Toml.Text
/-!
# Reading numbers, dates and times

Integers fit in 64 bits with a sign and may be written in four bases, numbers with a point or an
exponent are doubles. Underscores may stand between digits. Dates and times are checked against the
calendar and the clock.
-/

namespace Roster.Toml

/-- Digits of a base up to sixteen, with single underscores between them. -/
def readDigits (base : Nat) : Reader (List Nat) := fun s =>
  let isDigit (c : Char) : Bool := (hexValue? c).any (· < base)
  let run := s.takeWhile fun c => isDigit c || c == '_'
  let digits := run.filterMap hexValue?
  let spaced := run.head?.any isDigit && run.getLast?.any isDigit &&
    (run.zip run.tail).all fun (a, b) => a != '_' || b != '_'
  if spaced then some (digits, s.drop run.length) else none

def ofDigits (base : Nat) (digits : List Nat) : Nat := digits.foldl (fun n d => n * base + d) 0

/-- A sign, true for minus. -/
def readSign : List Char → Bool × List Char
  | '+' :: rest => (false, rest)
  | '-' :: rest => (true, rest)
  | s => (false, s)

/-- Decimal digits without a zero in front. -/
def readDecimal : Reader (List Nat) := fun s =>
  match s with
  | '0' :: rest => some ([0], rest)
  | _ => readDigits 10 s

/-! ### Doubles -/

/-- The double nearest to a decimal number; `none` when it is too large. -/
def double? (digits : List Nat) (exponent : Int) : Option Float :=
  let digits := digits.dropWhile (· = 0)
  let n := ofDigits 10 digits
  let size := exponent + digits.length
  if n = 0 ∨ size < -400 then some 0.0
  else if 400 < size then none
  else
    let x := if 0 ≤ exponent then Float.ofScientific (n * Nat.pow 10 exponent.toNat) false 0
      else Float.ofScientific n true (-exponent).toNat
    if x.isInf then none else some x

/-- An exponent, past its mark. -/
def readExponent : Reader Int := fun s => do
  let (negative, s) := readSign s
  let (digits, s) ← readDigits 10 s
  let n := ofDigits 10 digits
  some (if negative then -n else n, s)

/-- A number with a point, an exponent or both. A negative one may be too large. -/
def readDouble : Reader Float := fun s => do
  let (negative, s) := readSign s
  let (whole, s) ← readDecimal s
  let (places, s) ← match s with
    | '.' :: rest => readDigits 10 rest
    | 'e' :: _ | 'E' :: _ => some ([], s)
    | _ => none
  let (exponent, s) ← match s with
    | 'e' :: rest | 'E' :: rest => readExponent rest
    | _ => some (0, s)
  match double? (whole ++ places) (exponent - places.length) with
  | some x => some (if negative then -x else x, s)
  | none => if negative then some (-1.0 / 0.0, s) else none

/-- Infinity or not a number, by name. -/
def readNamedDouble : Reader Float := fun s =>
  let (negative, s) := readSign s
  match s with
  | 'i' :: 'n' :: 'f' :: rest => some (if negative then -1.0 / 0.0 else 1.0 / 0.0, rest)
  | 'n' :: 'a' :: 'n' :: rest => some (0.0 / 0.0, rest)
  | _ => none

/-! ### Integers -/

def ofSign (negative : Bool) (n : Nat) : Option Int :=
  if negative then if n ≤ Nat.pow 2 63 then some (-n) else none
  else if n < Nat.pow 2 63 then some n else none

def readInteger : Reader Int := fun s => do
  let based (base : Nat) (rest : List Char) : Option (Int × List Char) := do
    let (digits, rest) ← readDigits base rest
    some (← ofSign false (ofDigits base digits), rest)
  match s with
  | '0' :: 'x' :: rest => based 16 rest
  | '0' :: 'o' :: rest => based 8 rest
  | '0' :: 'b' :: rest => based 2 rest
  | _ =>
    let (negative, s) := readSign s
    let (digits, s) ← readDecimal s
    some (← ofSign negative (ofDigits 10 digits), s)

/-! ### Dates and times -/

/-- Exactly `n` decimal digits, and their value between bounds. -/
def readField (n low high : Nat) : Reader (List Char) := fun s =>
  let digits := s.take n
  let value := digits.foldl (fun v c => v * 10 + (c.toNat - 48)) 0
  if digits.length = n ∧ digits.all Char.isDigit ∧ low ≤ value ∧ value ≤ high then
    some (digits, s.drop n)
  else none

def readMark (c : Char) : List Char → Option (List Char)
  | d :: rest => if d = c then some rest else none
  | [] => none

def decimalOf (digits : List Char) : Nat := digits.foldl (fun v c => v * 10 + (c.toNat - 48)) 0

/-- The days of a month. -/
def monthDays (year month : Nat) : Nat :=
  if month = 2 then if year % 4 = 0 ∧ (year % 100 ≠ 0 ∨ year % 400 = 0) then 29 else 28
  else if month = 4 ∨ month = 6 ∨ month = 9 ∨ month = 11 then 30
  else 31

def readDate : Reader (List Char) := fun s => do
  let (year, s) ← readField 4 0 9999 s
  let (month, s) ← readField 2 1 12 (← readMark '-' s)
  let (day, s) ← readField 2 1 (monthDays (decimalOf year) (decimalOf month)) (← readMark '-' s)
  some (year ++ '-' :: month ++ '-' :: day, s)

/-- A fraction of a second, at most nine digits of it, without zeros at its end. -/
def writeFraction (digits : List Char) : List Char :=
  let kept := ((digits.take 9).reverse.dropWhile (· = '0')).reverse
  if kept.isEmpty then [] else '.' :: kept

def readTime : Reader (List Char) := fun s => do
  let (hour, s) ← readField 2 0 23 s
  let (minute, s) ← readField 2 0 59 (← readMark ':' s)
  let (second, s) ← readField 2 0 60 (← readMark ':' s)
  let time := hour ++ ':' :: minute ++ ':' :: second
  match s with
  | '.' :: c :: rest =>
    if c.isDigit then
      let digits := (c :: rest).takeWhile Char.isDigit
      some (time ++ writeFraction digits, (c :: rest).drop digits.length)
    else some (time, s)
  | _ => some (time, s)

/-- The distance from universal time; zero has no minus sign. -/
def readOffset : Reader (List Char) := fun s =>
  match s with
  | 'Z' :: rest | 'z' :: rest => some (['Z'], rest)
  | c :: rest =>
    if c = '+' ∨ c = '-' then do
      let (hour, rest) ← readField 2 0 23 rest
      let (minute, rest) ← readField 2 0 59 (← readMark ':' rest)
      let zero := decimalOf hour = 0 ∧ decimalOf minute = 0
      some ((if zero then '+' else c) :: hour ++ ':' :: minute, rest)
    else some ([], s)
  | [] => some ([], [])

/-- Whether digits in front make a time. -/
def startsTime (s : List Char) : Bool :=
  (readField 2 0 23 s).any fun (_, rest) => rest.head? == some ':'

/-- A date, a time or both. -/
def readMoment : Reader (List Char) := fun s => do
  let isDate := (readField 4 0 9999 s).any fun (_, rest) => rest.head? == some '-'
  if isDate then
    let (date, s) ← readDate s
    match s with
    | c :: rest =>
      if (c = 'T' ∨ c = 't' ∨ c = ' ') ∧ startsTime rest then
        let (time, rest) ← readTime rest
        let (offset, rest) ← readOffset rest
        some (date ++ 'T' :: time ++ offset, rest)
      else some (date, s)
    | [] => some (date, [])
  else readTime s

/-- Whether a date or time stands in front, well formed or not. -/
def startsMoment (s : List Char) : Bool :=
  startsTime s || (readField 4 0 9999 s).any fun (_, rest) => rest.head? == some '-'

/-- Whether digits in front go on with a point or an exponent. -/
def startsDouble (s : List Char) : Bool :=
  match readDecimal (readSign s).2 with
  | some (_, c :: _) => c == '.' || c == 'e' || c == 'E'
  | _ => false

end Roster.Toml
