import Roster.Url.Host
/-!
# URLs

The parts of a URL in their written forms, and the text that they make up. Parts are already percent
encoded; a port is only given when it is not the usual one of the scheme.
-/

namespace Roster

/-- Where a URL points to, and as whom. -/
structure Url.Authority where
  user : List Char
  password : List Char
  /-- Empty for files of this machine. -/
  host : List Char
  port : Option Nat
  deriving Repr, DecidableEq

structure Url where
  scheme : List Char
  authority : Option Url.Authority
  /-- Starts with a slash, is empty, or is opaque. -/
  path : List Char
  query : Option (List Char)
  fragment : Option (List Char)
  deriving Repr, DecidableEq

namespace Url

/-- Why a text is not a URL. -/
inductive Invalid where
  | relative
  | emptyHost
  | domain
  | domainCharacter
  | port
  | ipv4
  | ipv6
  deriving Repr, DecidableEq

def Invalid.message : Invalid → String
  | relative => "relative URL without a base"
  | emptyHost => "empty host"
  | domain => "invalid international domain name"
  | domainCharacter => "invalid domain character"
  | port => "invalid port number"
  | ipv4 => "invalid IPv4 address"
  | ipv6 => "invalid IPv6 address"

/-- The short name of what is wrong. -/
def Invalid.name : Invalid → String
  | relative => "RelativeUrlWithoutBase"
  | emptyHost => "EmptyHost"
  | domain => "IdnaError"
  | domainCharacter => "InvalidDomainCharacter"
  | port => "InvalidPort"
  | ipv4 => "InvalidIpv4Address"
  | ipv6 => "InvalidIpv6Address"

/-- User and password as they stand before a host. -/
def Authority.credentials (a : Authority) : List Char :=
  if a.user.isEmpty && a.password.isEmpty then []
  else a.user ++ (if a.password.isEmpty then [] else ':' :: a.password) ++ ['@']

def portText : Option Nat → List Char
  | none => []
  | some n => ':' :: decimal n

def Authority.text (a : Authority) : List Char :=
  a.credentials ++ a.host ++ portText a.port

/-- All before the path. A path that starts with two slashes must not be taken for an authority. -/
def origin (u : Url) : List Char :=
  u.scheme ++ ':' :: match u.authority with
    | some a => '/' :: '/' :: a.text
    | none => if "//".toList.isPrefixOf u.path then ['/', '.'] else []

def queryText : Option (List Char) → List Char
  | none => []
  | some q => '?' :: q

def fragmentText : Option (List Char) → List Char
  | none => []
  | some f => '#' :: f

def chars (u : Url) : List Char :=
  u.origin ++ u.path ++ queryText u.query ++ fragmentText u.fragment

def text (u : Url) : String := String.ofList u.chars

end Url

end Roster
