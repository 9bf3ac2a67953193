import Roster.Text.Quoted.Hidden
/-!
# Quoted texts

A text between double quotes in which every character can be seen: line breaks, tabs, quotes and
backslashes have short escapes, hidden characters are written by their code point.
-/

namespace Roster.Text

/-- The escape `\u`: the code point in lower case hexadecimal, in braces. -/
def codePointEscape (c : Char) : List Char :=
  "\\u\x7b".toList ++ Nat.toDigits 16 c.toNat ++ ['\x7d']

/-- How one character looks inside the quotes. -/
def quotedChar (c : Char) : List Char :=
  if c = '\x00' then ['\\', '0']
  else if c = '\t' then ['\\', 't']
  else if c = '\r' then ['\\', 'r']
  else if c = '\n' then ['\\', 'n']
  else if c = '"' ∨ c = '\\' then ['\\', c]
  else if hiddenCharacters.contains c then codePointEscape c
  else [c]

def quoted (s : String) : String :=
  String.ofList ('"' :: s.toList.flatMap quotedChar ++ ['"'])

end Roster.Text
