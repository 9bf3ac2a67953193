import Roster.Text.Split
import Roster.Url.Percent
/-!
# Query parameters

Names and values in a query, in the form that web forms use: blanks become plus signs, and all but
letters, digits and four marks is percent encoded. `decodePairs` reads a query back, as bytes.
-/

namespace Roster.Url.Form

/-- Letters, digits and `*-._`. -/
def keep (c : Char) : Bool := c.isAlphanum || c == '*' || c == '-' || c == '.' || c == '_'

def encodeChar (c : Char) : List Char := if c = ' ' then ['+'] else percentChar keep c

def encode (s : List Char) : List Char := s.flatMap encodeChar

def encodePair (name value : List Char) : List Char := encode name ++ '=' :: encode value

/-- Adds a parameter at the end of a query. -/
def append (query : List Char) (name value : List Char) : List Char :=
  if query.isEmpty then encodePair name value else query ++ '&' :: encodePair name value

def appendAll (query : List Char) (pairs : List (List Char × List Char)) : List Char :=
  pairs.foldl (fun q p => append q p.1 p.2) query

/-- The bytes that an encoded name or value stands for. -/
def decode (s : List Char) : List UInt8 :=
  percentDecode (utf8 (s.map fun c => if c = '+' then ' ' else c))

/-- Name and value of one parameter; without an equals sign the value is empty. -/
def decodePair (s : List Char) : List UInt8 × List UInt8 :=
  (decode (s.takeWhile (· ≠ '=')), decode ((s.dropWhile (· ≠ '=')).drop 1))

/-- The parameters of a query in their order. -/
def decodePairs (query : List Char) : List (List UInt8 × List UInt8) :=
  ((Text.splitOn '&' query).filter (!·.isEmpty)).map decodePair

end Roster.Url.Form
