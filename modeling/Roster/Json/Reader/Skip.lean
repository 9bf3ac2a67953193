import Roster.Json.Reader.Value
/-!
# Passing over values

A member that nobody asked for is checked for its form only: numbers may have any size, strings any
bytes, and containers may nest to any depth.
-/

namespace Roster.Json

def skipExponent (text : Bytes) : Except Fault Bytes :=
  let text := match text with
    | 43 :: rest => rest
    | 45 :: rest => rest
    | _ => text
  match text with
  | d :: rest => if isDigit d then .ok (rest.dropWhile isDigit) else blame .invalidNumber text
  | [] => stop .invalidNumber []

def skipScale (text : Bytes) : Except Fault Bytes :=
  match text with
  | 101 :: rest | 69 :: rest => skipExponent rest
  | _ => .ok text

def skipFraction (text : Bytes) : Except Fault Bytes :=
  match text with
  | 46 :: rest =>
    match rest with
    | d :: after =>
      if isDigit d then skipScale (after.dropWhile isDigit) else blame .invalidNumber rest
    | [] => stop .invalidNumber []
  | _ => skipScale text

/-- Passes over a number, past its minus sign if it has one. -/
def skipNumber (text : Bytes) : Except Fault Bytes :=
  match text with
  | [] => stop .invalidNumber []
  | d :: rest =>
    if d = 48 then
      match rest with
      | e :: _ => if isDigit e then blame .invalidNumber rest else skipFraction rest
      | [] => .ok []
    else if isDigit d then skipFraction (rest.dropWhile isDigit)
    else blame .invalidNumber text

/-- Passes over an escape, past its backslash. -/
def skipEscape (text : Bytes) : Except Fault Bytes :=
  match text with
  | [] => stop .endInString []
  | 117 :: rest => do .ok (← readUnit rest).2
  | b :: rest => if (shortEscape? b).isSome then .ok rest else blame .invalidEscape text

/-- In a string that is passed over, the place of a control character is the one in front of it. -/
def skipTextUpTo : Nat → Bytes → Except Fault Bytes
  | 0, _ => stop .endInString []
  | fuel + 1, text =>
    match text with
    | [] => stop .endInString []
    | b :: rest =>
      if b = 34 then .ok rest
      else if b = 92 then do skipTextUpTo fuel (← skipEscape rest)
      else if b < 32 then stop .controlCharacter text
      else skipTextUpTo fuel rest

/-- Passes over the rest of a string, past its opening quote. -/
def skipText (text : Bytes) : Except Fault Bytes := skipTextUpTo (text.length + 1) text

mutual

def skipValueUpTo : Nat → Bytes → Except Fault Bytes
  | 0, text => stop .endInValue text
  | fuel + 1, text =>
    match skipSpace text with
    | [] => stop .endInValue []
    | b :: rest =>
      if b = 110 then readWord "ull".toList rest
      else if b = 116 then readWord "rue".toList rest
      else if b = 102 then readWord "alse".toList rest
      else if b = 45 then skipNumber rest
      else if isDigit b then skipNumber (b :: rest)
      else if b = 34 then skipText rest
      else if b = 91 then skipItems fuel true rest
      else if b = 123 then skipMembers fuel true rest
      else blame .expectedValue (b :: rest)

/-- Passes over the elements of a list and its end. A comma in front of the end is taken for the
start of a missing value. -/
def skipItems : Nat → Bool → Bytes → Except Fault Bytes
  | 0, _, text => stop .endInList text
  | fuel + 1, first, text =>
    match skipSpace text with
    | [] => stop .endInList []
    | b :: rest =>
      if b = 93 then .ok rest
      else if first then do skipItems fuel false (← skipValueUpTo fuel (b :: rest))
      else if b = 44 then do skipItems fuel false (← skipValueUpTo fuel rest)
      else blame .expectedListCommaOrEnd (b :: rest)

/-- Passes over the members of an object and its end. -/
def skipMembers : Nat → Bool → Bytes → Except Fault Bytes
  | 0, _, text => stop .endInObject text
  | fuel + 1, first, text =>
    match skipSpace text with
    | [] => stop .endInObject []
    | b :: rest =>
      if b = 125 then .ok rest
      else do
        let text ←
          if first then pure (b :: rest)
          else if b = 44 then pure rest
          else blame .expectedObjectCommaOrEnd (b :: rest)
        match skipSpace text with
        | [] => stop .endInObject []
        | c :: rest =>
          if c = 34 then do
            let rest ← pastColon (← skipText rest)
            skipMembers fuel false (← skipValueUpTo fuel rest)
          else blame .keyNotString (c :: rest)

end

/-- Passes over one value of any kind. -/
def skipValue (text : Bytes) : Except Fault Bytes := skipValueUpTo (fuelFor text) text

end Roster.Json
