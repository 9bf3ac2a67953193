import Roster.Json.Value
import Roster.Decimal.Layout
/-!
# Writing JSON

Two forms of a document: on one line without blanks, and on many lines with two blanks for each
level. Empty containers stay on one line in both.
-/

namespace Roster.Json

/-- How one character looks inside a string: only quotes, backslashes and control characters are
escaped. -/
def escapeChar (c : Char) : List Char :=
  if c = '"' then ['\\', '"']
  else if c = '\\' then ['\\', '\\']
  else if c = '\x08' then ['\\', 'b']
  else if c = '\x0c' then ['\\', 'f']
  else if c = '\n' then ['\\', 'n']
  else if c = '\r' then ['\\', 'r']
  else if c = '\t' then ['\\', 't']
  else if c.toNat < 0x20 then
    ['\\', 'u', '0', '0', Nat.digitChar (c.toNat / 16), Nat.digitChar (c.toNat % 16)]
  else [c]

def printText (s : String) : List Char := '"' :: s.toList.flatMap escapeChar ++ ['"']

/-- A number; doubles are finite, as no other can be read. -/
def printNumber : Number → List Char
  | .int i => (toString i).toList
  | .real x => Decimal.Layout.json.float x

def printBool (b : Bool) : List Char := (if b then "true" else "false").toList

def openBrace : Char := '\x7b'

def closeBrace : Char := '\x7d'

/-! ### On one line -/

mutual

def compact : Json → List Char
  | null => "null".toList
  | bool b => printBool b
  | number n => printNumber n
  | string s => printText s
  | array items => '[' :: compactItems items ++ [']']
  | object members => openBrace :: compactMembers members ++ [closeBrace]

def compactItems : List Json → List Char
  | [] => []
  | [v] => compact v
  | v :: w :: rest => compact v ++ ',' :: compactItems (w :: rest)

def compactMembers : List (String × Json) → List Char
  | [] => []
  | [(name, v)] => printText name ++ ':' :: compact v
  | (name, v) :: m :: rest =>
    printText name ++ ':' :: compact v ++ ',' :: compactMembers (m :: rest)

end

/-! ### On many lines -/

/-- A new line at a level. -/
def newLine (level : Nat) : List Char := '\n' :: List.replicate (2 * level) ' '

mutual

def pretty (level : Nat) : Json → List Char
  | null => "null".toList
  | bool b => printBool b
  | number n => printNumber n
  | string s => printText s
  | array [] => ['[', ']']
  | array (v :: items) => '[' :: prettyItems (level + 1) (v :: items) ++ newLine level ++ [']']
  | object [] => [openBrace, closeBrace]
  | object (m :: members) =>
    openBrace :: prettyMembers (level + 1) (m :: members) ++ newLine level ++ [closeBrace]

def prettyItems (level : Nat) : List Json → List Char
  | [] => []
  | [v] => newLine level ++ pretty level v
  | v :: w :: rest => newLine level ++ pretty level v ++ ',' :: prettyItems level (w :: rest)

def prettyMembers (level : Nat) : List (String × Json) → List Char
  | [] => []
  | [(name, v)] => newLine level ++ printText name ++ ':' :: ' ' :: pretty level v
  | (name, v) :: m :: rest =>
    newLine level ++ printText name ++ ':' :: ' ' :: pretty level v ++
      ',' :: prettyMembers level (m :: rest)

end

def toLine (v : Json) : String := String.ofList v.compact

def toLines (v : Json) : String := String.ofList (v.pretty 0)

end Roster.Json
