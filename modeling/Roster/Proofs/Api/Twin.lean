import Roster.Proofs.Api.Calls
import Roster.Proofs.Http.Twin
/-!
# Calls that differ in their token

A token of printable ASCII can be put into a header and sent. So two calls that differ in nothing
but such tokens are answered alike, and they send the same but for the authorization of the first
request.
-/

namespace Roster

open Http

/-- A token of printable ASCII characters. -/
def Tokens.Printable (token : String) : Prop :=
  ∀ c ∈ token.toList, 32 ≤ c.toNat ∧ c.toNat ≤ 126

instance (token : String) : Decidable (Tokens.Printable token) :=
  List.decidableBAll (fun c : Char => 32 ≤ c.toNat ∧ c.toNat ≤ 126) token.toList

namespace Tokens

theorem isSendable_of_printable {c : Char} (h : 32 ≤ c.toNat ∧ c.toNat ≤ 126) :
    isSendable c = true := by
  have hlower : 32 ≤ c.toNat := h.1
  have hupper : c.toNat < 127 := by omega
  simp [isSendable, hlower, hupper]

/-- A bearer token of printable characters can be sent. -/
theorem Printable.sendable_bearer {token : String} (h : Printable token) :
    ("Bearer " ++ token).toList.all isSendable = true := by
  rw [String.toList_append, List.all_append, Bool.and_eq_true]
  refine ⟨by decide, ?_⟩
  rw [List.all_eq_true]
  intro c hc
  exact isSendable_of_printable (h c hc)

end Tokens

theorem Http.isValueChar_of_isSendable {c : Char} (h : isSendable c = true) :
    isValueChar c = true := by
  unfold isSendable at h
  unfold isValueChar
  rcases Bool.or_eq_true_iff.mp h with htab | hrange
  · rw [htab, Bool.true_or]
  · rw [Bool.and_eq_true, decide_eq_true_iff, decide_eq_true_iff] at hrange
    have hne : c.toNat ≠ 127 := by omega
    simp [hrange.1, hne]

/-- A header whose value can be sent is built as it is, with its name in lower case. -/
theorem Http.Request.header?_of_sendable {name value : String} (hname : isToken name = true)
    (hvalue : value.toList.all isSendable = true) :
    Request.header? name value = .ok (lowerName (name, value)) := by
  have hchars : value.toList.all isValueChar = true := by
    rw [List.all_eq_true] at hvalue ⊢
    intro c hc
    exact isValueChar_of_isSendable (hvalue c hc)
  unfold Request.header?
  rw [hname, hchars]
  rfl

/-- When the headers can be built, only the target decides whether there is a request. -/
theorem Http.Request.build_of_headers {method : String} (hmethod : isToken method = true)
    {headers built : List (String × String)}
    (hheaders : headers.mapM (fun h => Request.header? h.1 h.2) = .ok built) (target : String)
    (body : List UInt8) :
    Request.build method target headers body =
      ((Uri.ofText target).mapError InvalidRequest.uri).map (⟨method, ·, built, body⟩) := by
  unfold Request.build
  rw [hmethod, hheaders]
  cases Uri.ofText target <;> rfl

namespace Client

variable {token token' : String}

/-- The request that a call makes for a target. -/
def requestFor (target token : String) : Request := ⟨"GET", target, headers token, []⟩

theorem mapM_headers (h : Tokens.Printable token) :
    (headers token).mapM (fun header => Request.header? header.1 header.2) =
      .ok (headers token) := by
  have hauthorization : Request.header? "authorization" ("Bearer " ++ token) =
      .ok (lowerName ("authorization", "Bearer " ++ token)) :=
    Request.header?_of_sendable (by decide) h.sendable_bearer
  have haccept : Request.header? "accept" "application/json" =
      .ok (lowerName ("accept", "application/json")) :=
    Request.header?_of_sendable (by decide) (by decide)
  have hlower := map_lowerName_headers token
  simp only [headers, List.map_cons, List.map_nil] at hlower
  simp only [headers, List.mapM_cons, List.mapM_nil, hauthorization, haccept]
  exact congrArg Except.ok hlower

theorem request_of_printable (h : Tokens.Printable token) (url : Url) :
    request url token =
      ((Uri.ofText url.text).mapError InvalidRequest.uri).map (requestFor · token) :=
  Request.build_of_headers (by decide) (mapM_headers h) url.text []

theorem unsendable_requestFor (h : Tokens.Printable token) (target : String) :
    (requestFor target token).unsendable? = none := by
  have haccept : "application/json".toList.all isSendable = true := by decide
  rw [Request.unsendable?, requestFor, headers, List.find?_cons_of_neg, List.find?_cons_of_neg,
    List.find?_nil, Option.map_none]
  · rw [haccept]
    decide
  · rw [h.sendable_bearer]
    decide

theorem twin_requestFor (target token token' : String) (url : Url) :
    ((requestFor target token).toSent url).Twin ((requestFor target token').toSent url) :=
  ⟨rfl, rfl, rfl, rfl⟩

/-- Two answers differ in nothing but the authorization of what was sent first. -/
structure Answer.Twin {α : Type} (a a' : Answer α) : Prop where
  result : a'.result = a.result
  network : a'.network = a.network
  sent : Sent.Twins a.sent a'.sent

/-- Calls with two tokens of printable characters. -/
theorem twin_list {α : Type} (decode : Json.Bytes → Except Json.Refusal α) (net : Network)
    (base path : String) (params : ListParams) (h : Tokens.Printable token)
    (h' : Tokens.Printable token') :
    (list decode net base path token params).Twin (list decode net base path token' params) := by
  unfold list
  cases Endpoint.url base path params with
  | error reason => exact ⟨rfl, rfl, .nothing⟩
  | ok url =>
      dsimp only
      unfold get
      cases htarget : Uri.ofText url.text with
      | error reason =>
          rw [request_of_printable h, request_of_printable h', htarget]
          exact ⟨rfl, rfl, .nothing⟩
      | ok target =>
          have hrequest : request url token = .ok (requestFor target token) := by
            rw [request_of_printable h, htarget]
            rfl
          have hrequest' : request url token' = .ok (requestFor target token') := by
            rw [request_of_printable h', htarget]
            rfl
          have htwin := net.twin_send (unsendable_requestFor h target)
            (unsendable_requestFor h' target) rfl (twin_requestFor target token token')
          rw [hrequest, hrequest']
          dsimp only
          rw [htwin.result]
          exact ⟨rfl, htwin.network, htwin.sent⟩

end Client

end Roster
