import Roster.Http.Request
import Roster.Url.Reference
/-!
# Sending requests

A network is out of reach, or it answers each request with the next of its replies and hangs up when
none is left. Sending follows redirections, up to a limit; a request that is sent on carries neither
the body nor the authorization of the first.
-/

namespace Roster.Http

structure Reply where
  status : Nat
  /-- Where the server sends the client on to. -/
  location : Option String
  body : List UInt8
  deriving Repr, DecidableEq

inductive Network where
  | unreachable
  | server (replies : List Reply)
  deriving Repr, DecidableEq

structure Response where
  status : Nat
  body : List UInt8
  deriving Repr, DecidableEq

/-- A request as it reached a server. -/
structure Sent where
  method : String
  url : Url
  headers : List (String × String)
  body : List UInt8
  deriving Repr, DecidableEq

/-- What is asked for: the path and the query. -/
def Sent.line (s : Sent) : String :=
  s.method ++ " " ++ String.ofList (s.url.path ++ Url.queryText s.url.query)

/-- The host that is asked, with its port if that is not the usual one. -/
def Sent.host (s : Sent) : String :=
  match s.url.authority with
  | some a => String.ofList (a.host ++ Url.portText a.port)
  | none => ""

def Sent.header (s : Sent) (name : String) : Option String := s.headers.lookup name

/-- Why no response came. -/
inductive Failure where
  | unsendable (header : String)
  | invalidUrl (reason : Url.Invalid)
  | unknownScheme (url : Url) (scheme : String)
  | unreachable (url : Url)
  | hungUp (url : Url)
  | tooManyRedirects (url : Url)
  | badRedirect (url : Url) (location : String) (reason : Url.Invalid)
  deriving Repr, DecidableEq

/-- How many responses in a row may send the client on. -/
def maxRedirects : Nat := 5

def Failure.message : Failure → String
  | unsendable header => "invalid header " ++ header ++ ": failed to convert header to a str"
  | invalidUrl reason =>
    "Bad URL: failed to parse URL: " ++ reason.name ++ ": " ++ reason.message
  | unknownScheme url scheme => url.text ++ ": Unknown Scheme: unknown scheme '" ++ scheme ++ "'"
  | unreachable url =>
    url.text ++ ": Connection Failed: Connect error: Network is unreachable (os error 101)"
  | hungUp url => url.text ++ ": Network Error: Unexpected EOF"
  | tooManyRedirects url =>
    url.text ++ ": Too Many Redirects: reached max redirects (" ++ toString maxRedirects ++ ")"
  | badRedirect url location reason =>
    url.text ++ ": Bad URL: Bad redirection: " ++ location ++ ": " ++ reason.message

/-- What came of a request: the response or why there is none, all requests that reached a server,
in order, and the network as it is afterwards. -/
structure Outcome where
  result : Except Failure Response
  sent : List Sent
  network : Network

/-- Adds a request in front of those that were sent. -/
def Outcome.after (s : Sent) (o : Outcome) : Outcome := { o with sent := s :: o.sent }

/-- Whether a response may send the client on. -/
def isRedirect (status : Nat) : Bool := 300 ≤ status && status < 399

/-- The method of the request that follows a redirection; none when the client stays. -/
def redirectMethod? (status : Nat) (method : String) : Option String :=
  if status = 301 ∨ status = 302 ∨ status = 303 then
    some (if method = "GET" ∨ method = "HEAD" then method else "GET")
  else if (status = 307 ∨ status = 308) ∧ method ∈ ["GET", "HEAD", "OPTIONS", "TRACE"] then
    some method
  else none

/-- The request that follows a redirection. -/
def Sent.redirected (s : Sent) (method : String) (url : Url) : Sent :=
  ⟨method, url, s.headers.filter (·.1 ≠ "authorization"), []⟩

/-- Exchanges a request with servers that have the given replies, and follows up to `left`
redirections; `first` is the address of the request at the beginning. -/
def exchange (first : Url) : (left : Nat) → List Reply → Sent → Outcome
  | left, replies, s =>
    let scheme := String.ofList s.url.scheme
    if scheme ≠ "http" ∧ scheme ≠ "https" then
      ⟨.error (.unknownScheme first scheme), [], .server replies⟩
    else match replies with
      | [] => ⟨.error (.hungUp first), [s], .server []⟩
      | reply :: replies =>
        let stay : Outcome := ⟨.ok ⟨reply.status, reply.body⟩, [s], .server replies⟩
        if isRedirect reply.status then
          match left with
          | 0 => ⟨.error (.tooManyRedirects first), [s], .server replies⟩
          | left + 1 =>
            match reply.location, redirectMethod? reply.status s.method with
            | some location, method =>
              match s.url.join location.toList, method with
              | .error reason, _ =>
                ⟨.error (.badRedirect first location reason), [s], .server replies⟩
              | .ok url, some method =>
                (exchange first left replies (s.redirected method url)).after s
              | .ok _, none => stay
            | none, _ => stay
        else stay

/-- The address of a request. -/
def Request.url? (r : Request) : Except Url.Invalid Url := do
  let url ← Url.ofText r.target
  if url.authority.any (·.host.isEmpty) ∨ url.authority.isNone then throw .emptyHost
  .ok url

/-- The request in the form in which it is sent. -/
def Request.toSent (r : Request) (url : Url) : Sent := ⟨r.method, url, r.headers, r.body⟩

/-- Sends a request. Any response counts, whatever its status. -/
def Network.send (net : Network) (r : Request) : Outcome :=
  match r.unsendable? with
  | some header => ⟨.error (.unsendable header), [], net⟩
  | none =>
    match r.url? with
    | .error reason => ⟨.error (.invalidUrl reason), [], net⟩
    | .ok url =>
      let scheme := String.ofList url.scheme
      if scheme ≠ "http" ∧ scheme ≠ "https" then ⟨.error (.unknownScheme url scheme), [], net⟩
      else match net with
        | .unreachable => ⟨.error (.unreachable url), [], .unreachable⟩
        | .server replies => exchange url (maxRedirects - 1) replies (r.toSent url)

end Roster.Http
