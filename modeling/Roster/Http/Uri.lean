import Roster.Url.Percent
/-!
# Request targets

The texts that a request may be addressed to. They are checked byte by byte and kept as they are,
apart from their fragment; whether they name something that can be reached is found out later.
-/

namespace Roster.Http

/-- Why a text is not the target of a request. -/
inductive InvalidUri where
  | character
  | authority
  | format
  | tooLong
  | empty
  | schemeTooLong
  deriving Repr, DecidableEq

def InvalidUri.message : InvalidUri → String
  | character => "invalid uri character"
  | authority => "invalid authority"
  | format => "invalid format"
  | tooLong => "uri too long"
  | empty => "empty string"
  | schemeTooLong => "scheme too long"

namespace Uri

/-- A letter or digit of ASCII or one of the characters given. -/
def isOneOf (marks : String) (c : Char) : Bool := c.isAlphanum || marks.toList.contains c

def isUriChar (c : Char) : Bool := isOneOf "!#$&'()*+,-./:;=?@[]_~" c

def isPathChar (c : Char) : Bool :=
  let n := c.toNat
  n == 0x21 || n == 0x22 || (0x24 ≤ n && n ≤ 0x3B) || n == 0x3D || (0x40 ≤ n && n ≤ 0x5F)
    || 0x61 ≤ n

def isQueryChar (c : Char) : Bool :=
  let n := c.toNat
  n == 0x21 || (0x24 ≤ n && n ≤ 0x3B) || n == 0x3D || 0x3F ≤ n

/-- What was met in an authority so far. -/
structure Scan where
  colons : Nat
  opened : Bool
  closed : Bool
  percent : Bool
  /-- Nothing stands behind the last at sign. -/
  afterAt : Bool

/-- Passes one character of an authority. Colons and percent signs of a user, or of an address in
brackets, do not count. -/
def Scan.pass (s : Scan) (c : Char) : Except InvalidUri Scan :=
  let s := { s with afterAt := false }
  if c = '%' then .ok { s with percent := true }
  else if !isUriChar c then .error .character
  else if c = ':' then
    if 8 ≤ s.colons then .error .authority else .ok { s with colons := s.colons + 1 }
  else if c = '[' then
    if s.percent || s.opened then .error .authority else .ok { s with opened := true }
  else if c = ']' then
    if !s.opened || s.closed then .error .authority
    else .ok { s with closed := true, colons := 0, percent := false }
  else if c = '@' then .ok { s with colons := 0, percent := false, afterAt := true }
  else .ok s

def endsAuthority (c : Char) : Bool := c == '/' || c == '?' || c == '#'

/-- The authority in front of a text and what follows it. -/
def splitAuthority (s : List Char) : Except InvalidUri (List Char × List Char) := do
  if s.isEmpty then throw .empty
  let front := s.takeWhile (!endsAuthority ·)
  let scan ← front.foldlM Scan.pass ⟨0, false, false, false, false⟩
  if scan.opened != scan.closed || 1 < scan.colons || scan.afterAt || scan.percent then
    throw .authority
  .ok (front, s.drop front.length)

/-- A path and a query, without the fragment. -/
def readPath (s : List Char) : Except InvalidUri (List Char × Option (List Char)) := do
  let s := s.takeWhile (· ≠ '#')
  let path := s.takeWhile (· ≠ '?')
  if !path.all isPathChar then throw .character
  match s.dropWhile (· ≠ '?') with
  | _ :: query => if query.all isQueryChar then .ok (path, some query) else .error .character
  | [] => .ok (path, none)

def queryText : Option (List Char) → List Char
  | none => []
  | some q => '?' :: q

def isSchemeChar (c : Char) : Bool := isOneOf "+-.~" c

/-- The scheme in front of `://` and what follows. -/
def splitScheme (s : List Char) : Except InvalidUri (Option (List Char × List Char)) :=
  let scheme := s.takeWhile isSchemeChar
  match s.dropWhile isSchemeChar with
  | ':' :: '/' :: '/' :: rest =>
    let lower := scheme.map Char.toLower
    if lower = "http".toList ∨ lower = "https".toList then .ok (some (lower, rest))
    else if 64 < scheme.length then .error .schemeTooLong
    else .ok (some (scheme, rest))
  | _ => .ok none

/-- The text of a target, as it is shown and sent. -/
def ofText (s : String) : Except InvalidUri String := do
  let s := s.toList
  if 65534 < (Url.utf8 s).length then throw .tooLong
  match s with
  | [] => throw .empty
  | '/' :: _ =>
    let (path, query) ← readPath s
    .ok (String.ofList (path ++ queryText query))
  | ['*'] => .ok "*"
  | _ =>
    match ← (if s.length = 1 then .ok none else splitScheme s) with
    | none =>
      let (authority, rest) ← splitAuthority s
      if rest.isEmpty then .ok (String.ofList authority)
      else if s.length = 1 then throw .character
      else throw .format
    | some (scheme, rest) =>
      let (authority, rest) ← splitAuthority rest
      if authority.isEmpty then throw .format
      let (path, query) ← readPath rest
      let path := if path.isEmpty then ['/'] else path
      .ok (String.ofList (scheme ++ "://".toList ++ authority ++ path ++ queryText query))

end Uri

end Roster.Http
