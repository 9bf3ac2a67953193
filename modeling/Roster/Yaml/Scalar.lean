import Roster.Yaml.Resolved
/-!
# Scalars

A text is written plain when nothing in it has a meaning in YAML and it reads back as a text; else
in single quotes; in double quotes when it holds characters that have to be escaped; as a literal
block when it has several lines.
-/

namespace Roster.Yaml

/-- Line feeds, carriage returns, and the line separators of Unicode. -/
def isBreak (c : Char) : Bool :=
  c == '\n' || c == '\r' || c == '\u0085' || c == '\u2028' || c == '\u2029'

/-- A blank, a break or the null character. -/
def isGap (c : Char) : Bool := c == ' ' || c == '\t' || c == '\x00' || isBreak c

/-- Characters that need no escape. -/
def isPrintable (c : Char) : Bool :=
  let n := c.toNat
  n == 0x0A || (0x20 ≤ n && n ≤ 0x7E) || (0xA0 ≤ n && n != 0xFEFF && n != 0xFFFE && n != 0xFFFF)

/-- Characters that mean something at the start of a plain text. -/
def isIndicator (c : Char) : Bool :=
  "#,[]&*!|>'\"%@`".toList.contains c || c == '\x7b' || c == '\x7d'

/-- Whether the characters `c` and then `next` would mean something at the start. -/
def startsSyntax (s : List Char) : Bool :=
  match s with
  | '-' :: '-' :: '-' :: _ => true
  | '.' :: '.' :: '.' :: _ => true
  | [] => false
  | c :: rest =>
    isIndicator c ||
      ((c == '?' || c == ':' || c == '-') && match rest with
        | [] => true
        | d :: _ => isGap d)

/-- Whether a colon in front of a gap, or a hash behind one, stands after the first character. -/
def holdsSyntax : List Char → Bool
  | [] => false
  | [_] => false
  | c :: d :: rest =>
    (d == '#' && isGap c) ||
      (d == ':' && match rest with
        | [] => true
        | e :: _ => isGap e) ||
      holdsSyntax (d :: rest)

/-- Whether a character of one kind stands directly in front of one of another. -/
def adjacent (p q : Char → Bool) : List Char → Bool
  | [] => false
  | [_] => false
  | c :: d :: rest => (p c && q d) || adjacent p q (d :: rest)

def isSpace (c : Char) : Bool := c == ' '

/-- A text with a blank or break at one of its ends. -/
def hasLooseEnd (s : List Char) : Bool :=
  let loose (c : Option Char) : Bool := match c with
    | some c => isSpace c || isBreak c
    | none => false
  loose s.head? || loose s.getLast?

/-- Whether escapes are needed, or the blanks at the end of a line would be lost. -/
def needsEscapes (s : List Char) : Bool :=
  s.any (fun c => !isPrintable c) || adjacent isSpace isBreak s

def allowsPlain (s : List Char) : Bool :=
  !needsEscapes s && !hasLooseEnd s && !s.any isBreak && !startsSyntax s && !holdsSyntax s

def allowsSingle (s : List Char) : Bool := !needsEscapes s && !adjacent isBreak isSpace s

def allowsBlock (s : List Char) : Bool :=
  !s.isEmpty && !needsEscapes s && s.getLast? ≠ some ' '

inductive Style where
  | plain
  | single
  | double
  | literal
  deriving DecidableEq, Repr

/-- The style of a text. -/
def styleOf (s : List Char) : Style :=
  if s.contains '\n' then
    if allowsBlock s then .literal else .double
  else if !isAmbiguous s && allowsPlain s then .plain
  else if allowsSingle s then .single
  else .double

/-- A key stands on the line of its value when it has one line and at most 128 bytes. -/
def isSimpleKey (s : List Char) : Bool :=
  !s.any isBreak && (String.ofList s).utf8ByteSize ≤ 128

def blanks (n : Nat) : List Char := List.replicate n ' '

/-! ### Single quotes -/

/-- The text between single quotes: quotes are doubled, and what follows a break is indented;
`broken` is set behind a break. -/
def singleBody (indent : Nat) : Bool → List Char → List Char
  | broken, [] => if broken then blanks indent else []
  | broken, c :: rest =>
    if c = ' ' then c :: singleBody indent broken rest
    else if isBreak c then c :: singleBody indent true rest
    else
      (if broken then blanks indent else []) ++
        (if c = '\'' then ['\'', '\''] else [c]) ++ singleBody indent false rest

def single (indent : Nat) (s : List Char) : List Char := '\'' :: singleBody indent false s ++ ['\'']

/-! ### Double quotes -/

/-- The digits of a number in upper case hexadecimal, at least `width` of them. -/
def hexDigits (width n : Nat) : List Char :=
  let digits := (Nat.toDigits 16 n).map Char.toUpper
  List.replicate (width - digits.length) '0' ++ digits

/-- How one character looks between double quotes. -/
def escapeChar (c : Char) : List Char :=
  let n := c.toNat
  if isPrintable c && !isBreak c && c != '"' && c != '\\' then [c]
  else if n = 0x00 then ['\\', '0']
  else if n = 0x07 then ['\\', 'a']
  else if n = 0x08 then ['\\', 'b']
  else if n = 0x09 then ['\\', 't']
  else if n = 0x0A then ['\\', 'n']
  else if n = 0x0B then ['\\', 'v']
  else if n = 0x0C then ['\\', 'f']
  else if n = 0x0D then ['\\', 'r']
  else if n = 0x1B then ['\\', 'e']
  else if n = 0x22 then ['\\', '"']
  else if n = 0x5C then ['\\', '\\']
  else if n = 0x85 then ['\\', 'N']
  else if n = 0x2028 then ['\\', 'L']
  else if n = 0x2029 then ['\\', 'P']
  else if n ≤ 0xFF then '\\' :: 'x' :: hexDigits 2 n
  else if n ≤ 0xFFFF then '\\' :: 'u' :: hexDigits 4 n
  else '\\' :: 'U' :: hexDigits 8 n

def double (s : List Char) : List Char := '"' :: s.flatMap escapeChar ++ ['"']

/-! ### Literal blocks -/

/-- The marks behind the bar: the indentation when the text starts with a gap, and what happens to
the breaks at its end. -/
def blockHints (s : List Char) : List Char :=
  let start := match s with
    | c :: _ => if isSpace c || isBreak c then ['2'] else []
    | [] => []
  let finish := match s.reverse with
    | [] => ['-']
    | [c] => if isBreak c then ['+'] else ['-']
    | c :: d :: _ => if !isBreak c then ['-'] else if isBreak d then ['+'] else []
  start ++ finish

/-- The lines of a block; `fresh` is set at the start of a line. -/
def blockBody (indent : Nat) : Bool → List Char → List Char
  | _, [] => []
  | fresh, c :: rest =>
    if isBreak c then c :: blockBody indent true rest
    else (if fresh then blanks indent else []) ++ c :: blockBody indent false rest

def literal (indent : Nat) (s : List Char) : List Char :=
  '|' :: blockHints s ++ '\n' :: blockBody indent true s

/-- A text whose further lines are indented. -/
def scalar (indent : Nat) (s : List Char) : List Char :=
  match styleOf s with
  | .plain => s
  | .single => single indent s
  | .double => double s
  | .literal => literal indent s

/-- Whether a written text ends in a break of its own. -/
def endsLine (s : List Char) : Bool :=
  styleOf s = .literal && match s.getLast? with
    | some c => isBreak c
    | none => false

end Roster.Yaml
