import Roster.Text.Utf8
/-!
# Percent encoding

A character that may not stand for itself is written as the bytes of its UTF-8 form, each as a
percent sign and two hexadecimal digits. Which characters may stand depends on the part of the URL.
-/

namespace Roster.Url

/-- A percent sign and the two digits of a byte. -/
def percentByte (b : UInt8) : List Char :=
  let digit (n : Nat) : Char := Char.toUpper (Nat.digitChar n)
  ['%', digit (b.toNat / 16), digit (b.toNat % 16)]

/-- Writes a character, as it is when `keep` allows it. -/
def percentChar (keep : Char → Bool) (c : Char) : List Char :=
  if keep c then [c] else (String.utf8EncodeChar c).flatMap percentByte

def percentEncode (keep : Char → Bool) (s : List Char) : List Char := s.flatMap (percentChar keep)

/-- Printable ASCII, the blank included. -/
def keepVisible (c : Char) : Bool := 0x20 ≤ c.toNat && c.toNat ≤ 0x7E

def keepFragment (c : Char) : Bool :=
  keepVisible c && !(c == ' ' || c == '"' || c == '<' || c == '>' || c == '`')

def keepQuery (c : Char) : Bool :=
  keepVisible c && !(c == ' ' || c == '"' || c == '#' || c == '<' || c == '>')

def keepSpecialQuery (c : Char) : Bool := keepQuery c && c != '\''

def keepPath (c : Char) : Bool :=
  keepFragment c && !(c == '#' || c == '?' || c == '\x7b' || c == '\x7d')

def keepUserInfo (c : Char) : Bool :=
  keepPath c && !(c == '/' || c == ':' || c == ';' || c == '=' || c == '@' || c == '['
    || c == '\\' || c == ']' || c == '^' || c == '|')

/-- The value of a hexadecimal digit. -/
def hexDigit? (b : UInt8) : Option Nat :=
  let n := b.toNat
  if 48 ≤ n ∧ n ≤ 57 then some (n - 48)
  else if 65 ≤ n ∧ n ≤ 70 then some (n - 55)
  else if 97 ≤ n ∧ n ≤ 102 then some (n - 87)
  else none

/-- The bytes that a text with percent signs stands for; a percent sign without two digits behind it
stands for itself. -/
def percentDecode : List UInt8 → List UInt8
  | [] => []
  | a :: rest =>
    if a = 37 then
      match rest with
      | x :: y :: after =>
        match hexDigit? x, hexDigit? y with
        | some h, some l => UInt8.ofNat (h * 16 + l) :: percentDecode after
        | _, _ => a :: percentDecode (x :: y :: after)
      | [x] => [a, x]
      | [] => [a]
    else a :: percentDecode rest

/-- The UTF-8 form of a text. -/
def utf8 (s : List Char) : List UInt8 := s.flatMap String.utf8EncodeChar

end Roster.Url
