import Roster.Toml.Basic
/-!
# Reading texts

Texts stand between quotes, single or three of them. In basic texts a backslash starts an escape;
literal texts have none. Texts between three quotes may have several lines. Every reader gives what
it read and what is left.
-/

namespace Roster.Toml

/-- What a reader gives: a value and the characters after it. -/
abbrev Reader (α : Type) := List Char → Option (α × List Char)

def isBlank (c : Char) : Bool := c == ' ' || c == '\t'

def skipBlanks (s : List Char) : List Char := s.dropWhile isBlank

/-- A character that may stand in a comment: no control character but the tab. -/
def isShown (c : Char) : Bool := c == '\t' || (32 ≤ c.toNat && c.toNat != 127)

/-- What follows a line break. -/
def newline? : List Char → Option (List Char)
  | '\n' :: rest => some rest
  | '\r' :: '\n' :: rest => some rest
  | _ => none

/-- What follows a comment, past its mark; its line break is left. -/
def skipComment (s : List Char) : List Char := s.dropWhile isShown

/-- The rest of a line: blanks, a comment and the line break, or the end of the text. -/
def endLine? (s : List Char) : Option (List Char) :=
  let s := match skipBlanks s with
    | '#' :: rest => skipComment rest
    | rest => rest
  if s.isEmpty then some [] else newline? s

/-- Blanks, comments and line breaks; a comment has to end with a line break. -/
def skipLines : (fuel : Nat) → List Char → Option (List Char)
  | 0, s => some s
  | fuel + 1, s =>
    match skipBlanks s with
    | '#' :: rest => do skipLines fuel (← newline? (skipComment rest))
    | '\n' :: rest => skipLines fuel rest
    | '\r' :: rest => do skipLines fuel (← newline? ('\r' :: rest))
    | rest => some rest

/-! ### Escapes -/

def hexValue? (c : Char) : Option Nat :=
  if '0' ≤ c ∧ c ≤ '9' then some (c.toNat - 48)
  else if 'A' ≤ c ∧ c ≤ 'F' then some (c.toNat - 55)
  else if 'a' ≤ c ∧ c ≤ 'f' then some (c.toNat - 87)
  else none

/-- The character whose code point has exactly `n` hexadecimal digits in front. -/
def readCodePoint (n : Nat) : Reader Char := fun s => do
  let digits ← (s.take n).mapM hexValue?
  let code := digits.foldl (fun v d => v * 16 + d) 0
  if digits.length = n ∧ code.isValidChar then some (Char.ofNat code, s.drop n) else none

/-- The character of an escape, past its backslash. -/
def readEscape : Reader Char
  | 'b' :: rest => some ('\x08', rest)
  | 'f' :: rest => some ('\x0c', rest)
  | 'n' :: rest => some ('\n', rest)
  | 'r' :: rest => some ('\r', rest)
  | 't' :: rest => some ('\t', rest)
  | '\\' :: rest => some ('\\', rest)
  | '"' :: rest => some ('"', rest)
  | 'u' :: rest => readCodePoint 4 rest
  | 'U' :: rest => readCodePoint 8 rest
  | _ => none

/-! ### Texts on one line -/

/-- A basic text, past its opening quote. -/
def readBasic : (fuel : Nat) → Reader (List Char)
  | 0, _ => none
  | _, [] => none
  | fuel + 1, c :: rest =>
    if c = '"' then some ([], rest)
    else if c = '\\' then do
      let (c, rest) ← readEscape rest
      let (cs, rest) ← readBasic fuel rest
      some (c :: cs, rest)
    else if isShown c then do
      let (cs, rest) ← readBasic fuel rest
      some (c :: cs, rest)
    else none

/-- A literal text, past its opening quote. -/
def readLiteral (s : List Char) : Option (List Char × List Char) :=
  let isPart (c : Char) : Bool := isShown c && c != '\''
  match s.dropWhile isPart with
  | '\'' :: rest => some (s.takeWhile isPart, rest)
  | _ => none

/-! ### Texts on many lines -/

/-- The quotes in front: three end a text, and up to two before these belong to it. -/
def closing? (quote : Char) (s : List Char) : Option (List Char × List Char) :=
  let n := min (s.takeWhile (· = quote)).length 5
  if 3 ≤ n then some (List.replicate (n - 3) quote, s.drop n) else none

/-- What follows a backslash that joins lines: a line break behind blanks, and all blanks and line
breaks after it. -/
def joinLines? (s : List Char) : Option (List Char) := do
  let rest ← newline? (skipBlanks s)
  skipSpace (rest.length + 1) rest
where
  skipSpace : (fuel : Nat) → List Char → Option (List Char)
    | 0, s => some s
    | fuel + 1, s =>
      match newline? (skipBlanks s) with
      | some rest => skipSpace fuel rest
      | none => some (skipBlanks s)

/-- A text on many lines, past its opening quotes. Line breaks are read as line feeds. -/
def readLong (quote : Char) : (fuel : Nat) → Reader (List Char)
  | 0, _ => none
  | _, [] => none
  | fuel + 1, c :: rest =>
    match closing? quote (c :: rest), newline? (c :: rest) with
    | some (last, rest), _ => some (last, rest)
    | none, some rest => do
      let (cs, rest) ← readLong quote fuel rest
      some ('\n' :: cs, rest)
    | none, none =>
      if c = '\\' ∧ quote = '"' then
        match joinLines? rest with
        | some rest => readLong quote fuel rest
        | none => do
          let (c, rest) ← readEscape rest
          let (cs, rest) ← readLong quote fuel rest
          some (c :: cs, rest)
      else if isShown c then do
        let (cs, rest) ← readLong quote fuel rest
        some (c :: cs, rest)
      else none

/-- A line break directly behind opening quotes does not count. -/
def skipFirstBreak (s : List Char) : List Char := (newline? s).getD s

/-- A text in any of the four forms. -/
def readString : Reader String := fun s =>
  let read := match s with
    | '"' :: '"' :: '"' :: rest => readLong '"' (rest.length + 1) (skipFirstBreak rest)
    | '"' :: rest => readBasic (rest.length + 1) rest
    | '\'' :: '\'' :: '\'' :: rest => readLong '\'' (rest.length + 1) (skipFirstBreak rest)
    | '\'' :: rest => readLiteral rest
    | _ => none
  read.map fun (cs, rest) => (String.ofList cs, rest)

end Roster.Toml
