import Roster.Url.Parser
/-!
# References

What a text means where it is found: a URL of its own, or a way from the URL that it is found at. A
text with the scheme of that URL may be either of them, by the slashes behind its scheme.
-/

namespace Roster.Url

/-- The segments of a path but the last, given backwards. -/
def foldersOf (path : List Char) : List (List Char) :=
  match Text.splitOn '/' path with
  | _ :: segments => segments.dropLast.reverse
  | [] => []

/-- Follows a path from a base. -/
def follow (k : SchemeKind) (base : List Char) (s : List Char) : List Char :=
  if s.head?.any (isSlash k) then readPath k s
  else joinSegments (resolve k (foldersOf base) (readSegments k s))

/-- Follows a text without a scheme from a URL with a host or a path of segments. -/
def joinRelative (base : Url) (s : List Char) : Except Invalid Url :=
  let k := kindOf base.scheme
  match s with
  | a :: b :: rest =>
    if isSlash k a && isSlash k b then
      match k with
      | .file => readFile s
      | .web => readLocated base.scheme (rest.dropWhile (isSlash .web))
      | .other => readLocated base.scheme rest
    else .ok (within k s)
  | _ => .ok (within k s)
where
  /-- A URL on the same host. -/
  within (k : SchemeKind) (s : List Char) : Url :=
    let (path, query, fragment) := splitTail k s
    if path.isEmpty then { base with query := query.or base.query, fragment := fragment }
    else { base with path := follow k base.path path, query := query, fragment := fragment }

/-- Whether what stands behind a scheme is a way from a URL with that scheme. On the web it is, if
it begins with fewer slashes than an authority does. -/
def isWay (k : SchemeKind) (behind : List Char) : Bool :=
  match k with
  | .file => true
  | .web => (behind.takeWhile (isSlash .web)).length < 2
  | .other => false

/-- Follows a text from a URL with a host or a path of segments. -/
def join (base : Url) (s : List Char) : Except Invalid Url :=
  let s := clean s
  match splitScheme? s with
  | some (scheme, behind) =>
    if scheme = base.scheme ∧ isWay (kindOf scheme) behind then joinRelative base behind
    else parse s
  | none => joinRelative base s

example :
    let base : Url := ⟨"https".toList, some ⟨[], [], "h".toList, none⟩, "/a/b".toList, none, none⟩
    let follow (s : String) := (base.join s.toList).toOption.map text
    ["c?q=1", "/auth/login", "https:/auth/login", "https:c", "https://[::1]/c"].map follow =
      [some "https://h/a/c?q=1", some "https://h/auth/login", some "https://h/auth/login",
        some "https://h/a/c", some "https://[::1]/c"] := by decide +kernel

end Roster.Url
