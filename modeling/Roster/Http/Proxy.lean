import Roster.Settings.Environment
/-!
# Proxies

A proxy is named by one of six variables. The first that is set decides, whatever the others say and
even if it is empty. A name may have a protocol in front, and a user with a password before an at
sign.
-/

namespace Roster.Http.Proxy

/-- What comes before the first occurrence of a text, and what comes after it. -/
def splitAtText? (sep : List Char) : List Char → Option (List Char × List Char)
  | [] => none
  | c :: rest =>
    if sep.isPrefixOf (c :: rest) then some ([], (c :: rest).drop sep.length)
    else (splitAtText? sep rest).map fun (before, after) => (c :: before, after)

def protocols : List String := ["http", "socks4", "socks4a", "socks", "socks5"]

/-- Whether a text names a proxy: its protocol is known, and a user has a password. -/
def isValid (name : String) : Bool :=
  let (known, address) := match splitAtText? "://".toList name.toList with
    | some (protocol, address) => (protocols.contains (String.ofList protocol), address)
    | none => (true, name.toList)
  let user := (address.reverse.dropWhile (· ≠ '@')).drop 1
  known && (!address.contains '@' || user.contains ':')

/-- The variables in the order in which they are asked, and the kind of proxy that each names. -/
def names : List (String × String) :=
  [("ALL_PROXY", "ALL"), ("all_proxy", "ALL"), ("HTTPS_PROXY", "HTTPS"), ("https_proxy", "HTTPS"),
    ("HTTP_PROXY", "HTTP"), ("http_proxy", "HTTP")]

/-- The kind of proxy that the environment asks for and its value. -/
def chosen? (env : Environment) : Option (String × String) :=
  names.findSome? fun (name, kind) => (env name).map fun value => (kind, value)

/-- What is wrong with the proxy that the environment asks for. -/
def refusal? (env : Environment) : Option String :=
  match chosen? env with
  | some (kind, value) =>
    if isValid value then none else some ("Failed to create " ++ kind ++ " proxy: Malformed proxy")
  | none => none

end Roster.Http.Proxy
