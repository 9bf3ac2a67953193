import Roster.Http.Request
import Roster.Http.Status
import Roster.Json.Record
import Roster.Url.Basic
/-!
# What can go wrong with the API

A call fails before it is made, on the way, by the answer's status, or because the answer cannot be
read. A failed status carries the reason that the server gives, or else the phrase of its code.
-/

namespace Roster

inductive ApiError where
  | missingToken
  | invalidUrl (base : String) (reason : Url.Invalid)
  | request (reason : Http.InvalidRequest)
  | transport (what : String)
  | unauthorized (reason : String)
  | forbidden (reason : String)
  | status (code : Nat) (reason : String)
  | decode (refusal : Json.Refusal)

namespace ApiError

def message : ApiError → String
  | missingToken =>
    "no access token available, set KFLEET_ACCESS_TOKEN or access_token in the config file"
  | invalidUrl base reason => "invalid api url " ++ base ++ ": " ++ reason.message
  | request reason => "request format error: " ++ reason.message
  | transport what => "http transport error: " ++ what
  | unauthorized reason => "not authorized, your access token may have expired: " ++ reason
  | forbidden reason => "access denied: " ++ reason
  | status code reason => "api request failed with " ++ Http.Status.describe code ++ ": " ++ reason
  | decode refusal => "unable to decode api response: " ++ refusal.message

/-- What lies behind an error; a message that has a cause says it as well. -/
def causes : ApiError → List String
  | invalidUrl _ reason => [reason.message]
  | request reason => [reason.message]
  | decode refusal => [refusal.message]
  | _ => []

/-- The error for a status that is not a success. -/
def ofStatus (code : Nat) (reason : String) : ApiError :=
  if code = 401 then unauthorized reason
  else if code = 403 then forbidden reason
  else status code reason

end ApiError

namespace Response

open Json

/-- The document that explains a failure. -/
def explanation : Record (Option String) where
  title := "struct ErrorBody"
  fields := [⟨"reason", Shape.text.nullable, some none⟩]

/-- The reason in an explanation, if it gives one. -/
def reasonShape : Shape (Option String) := explanation.shape.map fun
  | [reason] => reason
  | _ => none

/-- Reads a whole document as a value of some shape. -/
def read {α : Type} (shape : Shape α) (body : Bytes) : Except Refusal α :=
  wholeDocument (shape.read maxDepth) body

/-- Why a request failed: the reason given in the body, else the phrase of the status. -/
def reason (code : Nat) (body : Bytes) : String :=
  match read reasonShape body with
  | .ok (some reason) => reason
  | _ => (Http.Status.phrase? code).getD "unknown error"

/-- The error for a response that is not a success. -/
def failure (code : Nat) (body : Bytes) : ApiError := .ofStatus code (reason code body)

/-- The value of a response: its status comes first, then its body is read. -/
def value {α : Type} (decode : Bytes → Except Refusal α) (code : Nat) (body : Bytes) :
    Except ApiError α :=
  if Http.Status.isSuccess code then (decode body).mapError .decode
  else .error (failure code body)

end Response

end Roster
