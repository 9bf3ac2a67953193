/-!
# Texts that YAML reads as something else

A text without quotes may be read as null, a boolean or a number. Such texts are quoted, as are runs
of digits behind a zero, which some readers take for numbers.
-/

namespace Roster.Yaml

def isNullWord (s : List Char) : Bool :=
  s = "null".toList || s = "Null".toList || s = "NULL".toList || s = ['~']

def isBoolWord (s : List Char) : Bool :=
  s = "true".toList || s = "True".toList || s = "TRUE".toList ||
    s = "false".toList || s = "False".toList || s = "FALSE".toList

/-- The value of a digit in a base of at most sixteen. -/
def digitIn? (base : Nat) (c : Char) : Option Nat :=
  let n :=
    if '0' ≤ c ∧ c ≤ '9' then c.toNat - 48
    else if 'a' ≤ c ∧ c ≤ 'f' then c.toNat - 87
    else if 'A' ≤ c ∧ c ≤ 'F' then c.toNat - 55
    else base
  if n < base then some n else none

/-- Digits in a base as a number, none for the empty text. -/
def natIn? (base : Nat) (s : List Char) : Option Nat :=
  if s.isEmpty then none
  else s.foldl (fun n c => do some ((← n) * base + (← digitIn? base c))) (some 0)

/-- Whether digits in a base make a number of at most `bound`. -/
def fits (base bound : Nat) (s : List Char) : Bool :=
  match natIn? base s with
  | some n => n ≤ bound
  | none => false

/-- A sign, a zero and more digits: no number, although it looks like one. -/
def isPaddedDigits (s : List Char) : Bool :=
  let digits := match s with
    | '-' :: rest | '+' :: rest => rest
    | _ => s
  match digits with
  | '0' :: d :: rest => (d :: rest).all Char.isDigit
  | _ => false

/-- A number without a sign, in base ten or with a mark for its base. -/
def isMagnitude (bound : Nat) (s : List Char) : Bool :=
  match s with
  | '0' :: 'x' :: rest => fits 16 bound rest
  | '0' :: 'o' :: rest => fits 8 bound rest
  | '0' :: 'b' :: rest => fits 2 bound rest
  | _ => fits 10 bound s && !isPaddedDigits s

/-- An integer of at most 128 bits. -/
def isInteger (s : List Char) : Bool :=
  match s with
  | '+' :: rest => isMagnitude (Nat.pow 2 128 - 1) rest
  | '-' :: rest => isMagnitude (Nat.pow 2 127) rest
  | _ => isMagnitude (Nat.pow 2 128 - 1) s

/-- An exponent: its digits behind an optional sign. -/
def exponent? (s : List Char) : Option Int :=
  match s with
  | '-' :: rest => (natIn? 10 rest).map fun n => -(n : Int)
  | '+' :: rest => (natIn? 10 rest).map Int.ofNat
  | _ => (natIn? 10 s).map Int.ofNat

/-- Whether `d · 10^e` is below the doubles' limit, from which on numbers round to infinity. -/
def belowInfinity (d : Nat) (e : Int) : Bool :=
  let limit := (Nat.pow 2 54 - 1) * Nat.pow 2 970
  if d = 0 then true
  else if 400 < e then false
  else if 0 ≤ e then d * Nat.pow 10 e.toNat < limit
  else
    let digits := (Nat.toDigits 10 d).length
    if (digits : Int) + e < 400 then
      if (digits : Int) + e < 300 then true else d < limit * Nat.pow 10 (-e).toNat
    else false

/-- A finite decimal without a sign: digits, perhaps with a point among or beside them, perhaps with
an exponent. -/
def isDecimal (s : List Char) : Bool :=
  let whole := s.takeWhile Char.isDigit
  let rest := s.dropWhile Char.isDigit
  let (fraction, rest) := match rest with
    | '.' :: rest => (rest.takeWhile Char.isDigit, rest.dropWhile Char.isDigit)
    | _ => ([], rest)
  let e := match rest with
    | [] => some 0
    | 'e' :: rest | 'E' :: rest => exponent? rest
    | _ => none
  match natIn? 10 (whole ++ fraction), e with
  | some d, some e => belowInfinity d (e - fraction.length)
  | _, _ => false

def isInfinityWord (s : List Char) : Bool :=
  s = ".inf".toList || s = ".Inf".toList || s = ".INF".toList

def isFloat (s : List Char) : Bool :=
  s = ".nan".toList || s = ".NaN".toList || s = ".NAN".toList ||
    match s with
    | '+' :: rest | '-' :: rest => isInfinityWord rest || isDecimal rest
    | _ => isInfinityWord s || isDecimal s

/-- Whether a text has to be quoted because of what it would be read as. -/
def isAmbiguous (s : List Char) : Bool :=
  s.isEmpty || isNullWord s || isBoolWord s || isInteger s || isFloat s || isPaddedDigits s

end Roster.Yaml
