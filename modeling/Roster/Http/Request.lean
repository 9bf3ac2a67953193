import Roster.Http.Uri
/-!
# Requests

A request has a method, a target, headers and a body. Building one checks each part; the first part
that is refused decides the error.
-/

namespace Roster.Http

/-- Why a request cannot be built. -/
inductive InvalidRequest where
  | method
  | uri (reason : InvalidUri)
  | headerName
  | headerValue
  | status
  deriving Repr, DecidableEq

def InvalidRequest.message : InvalidRequest → String
  | method => "invalid HTTP method"
  | uri reason => reason.message
  | headerName => "invalid HTTP header name"
  | headerValue => "failed to parse header value"
  | status => "invalid status code"

structure Request where
  method : String
  target : String
  /-- Names are in lower case. -/
  headers : List (String × String)
  body : List UInt8
  deriving Repr, DecidableEq

/-- A character of a method or of the name of a header. -/
def isTokenChar (c : Char) : Bool := Uri.isOneOf "!#$%&'*+-.^_\x60|~" c

def isToken (s : String) : Bool := !s.toList.isEmpty && s.toList.all isTokenChar

/-- A character that the value of a header may hold; those above ASCII are sent by no one. -/
def isValueChar (c : Char) : Bool := c == '\t' || (32 ≤ c.toNat && c.toNat != 127)

/-- A character of a value that can be sent. -/
def isSendable (c : Char) : Bool := c == '\t' || (32 ≤ c.toNat && c.toNat < 127)

/-- A header with its name in lower case. -/
def Request.header? (name value : String) : Except InvalidRequest (String × String) := do
  if !isToken name then throw .headerName
  if !value.toList.all isValueChar then throw .headerValue
  .ok (String.ofList (name.toList.map Char.toLower), value)

def Request.build (method target : String) (headers : List (String × String))
    (body : List UInt8) : Except InvalidRequest Request := do
  if !isToken method then throw .method
  let target ← (Uri.ofText target).mapError .uri
  let headers ← headers.mapM fun h => header? h.1 h.2
  .ok ⟨method, target, headers, body⟩

/-- The first header whose value cannot be sent. -/
def Request.unsendable? (r : Request) : Option String :=
  (r.headers.find? fun h => !h.2.toList.all isSendable).map Prod.fst

/-- The value of a header. -/
def Request.header (r : Request) (name : String) : Option String := r.headers.lookup name

end Roster.Http
