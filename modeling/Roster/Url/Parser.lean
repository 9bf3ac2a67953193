import Roster.Url.Basic
import Roster.Url.Domain
import Roster.Url.Path
/-!
# Reading URLs

A text as a URL, in the way browsers read it: blanks around it and line breaks in it do not count,
the web's schemes need a host, and all parts are brought to their written forms. There is no base,
so a text without a scheme is refused.
-/

namespace Roster.Url

/-- Leaves out what does not count in a URL. -/
def clean (s : List Char) : List Char :=
  let ignored (c : Char) : Bool := c.toNat ≤ 32
  let s := (((s.dropWhile ignored).reverse).dropWhile ignored).reverse
  s.filter fun c => !(c == '\t' || c == '\n' || c == '\r')

/-! ### Scheme -/

def isSchemeChar (c : Char) : Bool := c.isAlphanum || c == '+' || c == '-' || c == '.'

/-- The scheme and what follows its colon. -/
def splitScheme? (s : List Char) : Option (List Char × List Char) :=
  match s with
  | [] => none
  | c :: _ =>
    if c.isAlpha then
      match s.dropWhile isSchemeChar with
      | ':' :: rest => some ((s.takeWhile isSchemeChar).map Char.toLower, rest)
      | _ => none
    else none

/-- The schemes of the web and their usual ports. -/
def defaultPort? (scheme : List Char) : Option Nat :=
  let s := String.ofList scheme
  if s = "http" ∨ s = "ws" then some 80
  else if s = "https" ∨ s = "wss" then some 443
  else if s = "ftp" then some 21
  else none

def kindOf (scheme : List Char) : SchemeKind :=
  if scheme = "file".toList then .file
  else if (defaultPort? scheme).isSome then .web
  else .other

/-! ### Authority -/

/-- A character behind which no part of an authority stands. -/
def endsAuthority (k : SchemeKind) (c : Char) : Bool := isSlash k c || c == '?' || c == '#'

/-- What stands before the last at sign, if there is one, and what stands behind it. -/
def splitUser (k : SchemeKind) (s : List Char) : Option (List Char) × List Char :=
  let front := s.takeWhile (!endsAuthority k ·)
  if front.contains '@' then
    let host := (front.reverse.takeWhile (· ≠ '@')).reverse
    let user := front.take (front.length - host.length - 1)
    (some user, s.drop (user.length + 1))
  else (none, s)

/-- The text of a host and what follows it; a colon between brackets belongs to the host. -/
def splitHost (k : SchemeKind) (inBrackets : Bool) : List Char → List Char × List Char
  | [] => ([], [])
  | c :: rest =>
    if endsAuthority k c || (c == ':' && !inBrackets) then ([], c :: rest)
    else
      let inside := if c = '[' then true else if c = ']' then false else inBrackets
      let (host, rest) := splitHost k inside rest
      (c :: host, rest)

/-- An address in brackets. -/
def bracketed? (host : List Char) : Except Invalid (List Char) :=
  if host.getLast? = some ']' then
    match ipv6? (host.drop 1).dropLast with
    | some groups => .ok (writeIpv6 groups)
    | none => .error .ipv6
  else .error .ipv6

/-- The host of a scheme that always has one. -/
def readHost (host : List Char) : Except Invalid (List Char) :=
  if host.head? = some '[' then bracketed? host
  else
    match (Text.Utf8.decode? (percentDecode (utf8 host))).bind Domain.toAscii? with
    | none => .error .domain
    | some [] => .error .emptyHost
    | some name =>
      if endsInNumber name then
        match ipv4? name with
        | some n => .ok (writeIpv4 n)
        | none => .error .ipv4
      else .ok name

/-- Characters that a host of an unknown scheme cannot have. -/
def breaksHost (c : Char) : Bool := c.toNat = 0 || " #/:<>?@[\\]^|".toList.contains c

def readOpaqueHost (host : List Char) : Except Invalid (List Char) :=
  if host.head? = some '[' then bracketed? host
  else if host.any breaksHost then .error .domainCharacter
  else .ok (percentEncode keepVisible host)

/-- A port and what follows it. The usual port of the scheme is left out. -/
def readPort (scheme : List Char) (s : List Char) : Except Invalid (Option Nat × List Char) :=
  let digits := s.takeWhile Char.isDigit
  let rest := s.dropWhile Char.isDigit
  let port := digits.foldl (fun n c => n * 10 + (c.toNat - 48)) 0
  if 65535 < port then .error .port
  else match rest.head? with
    | some c =>
      if c = '/' ∨ c = '\\' ∨ c = '?' ∨ c = '#' then
        .ok (if digits.isEmpty ∨ defaultPort? scheme = some port then none else some port, rest)
      else .error .port
    | none => .ok (if digits.isEmpty ∨ defaultPort? scheme = some port then none else some port, [])

/-- User, host and port, and what follows them. -/
def readAuthority (scheme : List Char) (s : List Char) :
    Except Invalid (Authority × List Char) := do
  let k := kindOf scheme
  let (user, s) := splitUser k s
  if user = some [] ∧ s.head?.any (endsAuthority k) then throw .emptyHost
  let user := user.getD []
  let name := user.takeWhile (· ≠ ':')
  let password := (user.dropWhile (· ≠ ':')).drop 1
  let (host, s) := splitHost k false s
  if host.isEmpty ∧ k = .web then throw .emptyHost
  let host ← if k = .web then readHost host else readOpaqueHost host
  if host.isEmpty ∧ s.head? = some ':' then throw .emptyHost
  let (port, s) ← match s with
    | ':' :: rest => readPort scheme rest
    | _ => .ok (none, s)
  let authority : Authority :=
    ⟨percentEncode keepUserInfo name, percentEncode keepUserInfo password, host, port⟩
  if host.isEmpty ∧ !authority.credentials.isEmpty then throw .emptyHost
  .ok (authority, s)

/-! ### The whole -/

/-- Splits off what comes behind a path. -/
def splitTail (k : SchemeKind) (s : List Char) :
    List Char × Option (List Char) × Option (List Char) :=
  let path := s.takeWhile fun c => !(c == '?' || c == '#')
  let rest := s.dropWhile fun c => !(c == '?' || c == '#')
  let keep := if k.isSpecial then keepSpecialQuery else keepQuery
  match rest with
  | '?' :: rest =>
    let query := percentEncode keep (rest.takeWhile (· ≠ '#'))
    match rest.dropWhile (· ≠ '#') with
    | _ :: fragment => (path, some query, some (percentEncode keepFragment fragment))
    | [] => (path, some query, none)
  | _ :: fragment => (path, none, some (percentEncode keepFragment fragment))
  | [] => (path, none, none)

/-- The path of a file and the host before it, if there is one. -/
def splitFile (s : List Char) : List Char × List Char :=
  match s with
  | a :: b :: rest =>
    if isSlash .file a && isSlash .file b then
      let host := rest.takeWhile (!endsAuthority .file ·)
      if isDrive host then ([], rest) else (host, rest.drop host.length)
    else ([], s)
  | _ => ([], s)

/-- A file of this machine has no host; a drive letter belongs to this machine. -/
def readFile (s : List Char) : Except Invalid Url := do
  let (host, s) := splitFile s
  let host ← if host.isEmpty then .ok [] else readHost host
  let (path, query, fragment) := splitTail .file s
  let hostless := host = "localhost".toList ∨ (readSegments .file path).head?.any isDrive
  .ok ⟨"file".toList, some ⟨[], [], if hostless then [] else host, none⟩, readPath .file path, query,
    fragment⟩

/-- A URL whose scheme is followed by an authority. -/
def readLocated (scheme : List Char) (s : List Char) : Except Invalid Url := do
  let k := kindOf scheme
  let (authority, s) ← readAuthority scheme s
  let (path, query, fragment) := splitTail k s
  let path := if k = .other ∧ path.isEmpty then [] else readPath k path
  .ok ⟨scheme, some authority, path, query, fragment⟩

/-- A URL without an authority: a path, or anything at all. -/
def readOpaque (scheme : List Char) (s : List Char) : Url :=
  let (path, query, fragment) := splitTail .other s
  let path :=
    if path.head? = some '/' then readPath .other path else percentEncode keepVisible path
  ⟨scheme, none, path, query, fragment⟩

def parse (s : List Char) : Except Invalid Url :=
  match splitScheme? (clean s) with
  | none => .error .relative
  | some (scheme, rest) =>
    match kindOf scheme with
    | .file => readFile rest
    | .web => readLocated scheme (rest.dropWhile (isSlash .web))
    | .other =>
      match rest with
      | '/' :: '/' :: rest => readLocated scheme rest
      | _ => .ok (readOpaque scheme rest)

def ofText (s : String) : Except Invalid Url := parse s.toList

end Roster.Url
