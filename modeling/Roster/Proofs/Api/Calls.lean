import Roster.Api.Client
import Roster.Proofs.Http.Exchange
import Roster.Proofs.Outcome
/-!
# What a call puts on the wire

A call asks for one address with one token. What else it sends are redirections of that request.
-/

namespace Roster

open Http

/-! ### Building a request -/

/-- A header with its name in lower case. -/
def Http.lowerName (header : String × String) : String × String :=
  (String.ofList (header.1.toList.map Char.toLower), header.2)

theorem Http.Request.header?_eq_ok {name value : String} {header : String × String}
    (h : Request.header? name value = .ok header) : header = lowerName (name, value) := by
  unfold Request.header? at h
  dsimp only at h
  split at h
  · contradiction
  split at h
  · contradiction
  exact (Except.ok.inj h).symm

theorem Http.Request.build_eq_ok {method target : String} {headers : List (String × String)}
    {body : List UInt8} {r : Request} (h : Request.build method target headers body = .ok r) :
    ∃ checked, Uri.ofText target = .ok checked ∧
      r = ⟨method, checked, headers.map lowerName, body⟩ := by
  unfold Request.build at h
  dsimp only at h
  split at h
  · contradiction
  obtain ⟨checked, hchecked, h⟩ := bind_eq_ok_iff.mp h
  obtain ⟨built, hbuilt, h⟩ := bind_eq_ok_iff.mp h
  refine ⟨checked, mapError_eq_ok_iff.mp hchecked, ?_⟩
  rw [← Except.ok.inj h, mapM_eq_map (fun _ _ => Request.header?_eq_ok) hbuilt]

/-- The address that a request is sent to is the one that its target names. -/
theorem Http.Request.url?_eq_ok {r : Request} {url : Url} (h : r.url? = .ok url) :
    Url.ofText r.target = .ok url := by
  unfold Request.url? at h
  obtain ⟨named, hnamed, h⟩ := bind_eq_ok_iff.mp h
  dsimp only at h
  split at h
  · contradiction
  · rw [hnamed, ← h]

namespace Client

/-- The headers of a call. -/
def headers (token : String) : List (String × String) :=
  [("authorization", "Bearer " ++ token), ("accept", "application/json")]

theorem map_lowerName_headers (token : String) :
    (headers token).map lowerName = headers token := by
  have hauthorization :
      String.ofList ("authorization".toList.map Char.toLower) = "authorization" := by decide
  have haccept : String.ofList ("accept".toList.map Char.toLower) = "accept" := by decide
  simp only [headers, List.map_cons, List.map_nil, lowerName, hauthorization, haccept]

/-- A request asks for a page of a list, with a token: it is made from the address of the list,
which is checked and read again before it is sent. -/
structure Asks (base path token : String) (params : ListParams) (s : Sent) : Prop where
  method : s.method = "GET"
  address : ∃ url target, Endpoint.url base path params = .ok url ∧
    Uri.ofText url.text = .ok target ∧ Url.ofText target = .ok s.url
  headers : s.headers = headers token
  body : s.body = []

theorem Asks.carries {base path token : String} {params : ListParams} {s : Sent}
    (h : Asks base path token params s) : s.Carries token := by
  rw [Sent.Carries, Sent.header, h.headers]
  rfl

theorem asks_toSent {base path token : String} {params : ListParams} {url address : Url}
    {r : Request} (hurl : Endpoint.url base path params = .ok url)
    (hrequest : request url token = .ok r) (haddress : r.url? = .ok address) :
    Asks base path token params (r.toSent address) := by
  obtain ⟨target, htarget, hr⟩ := Request.build_eq_ok hrequest
  have hnamed := Request.url?_eq_ok haddress
  rw [hr] at hnamed ⊢
  exact ⟨rfl, ⟨url, target, hurl, htarget, hnamed⟩, map_lowerName_headers token, rfl⟩

/-- What a call puts on the wire: nothing, or the request for the list and redirections of it. -/
def Calls (base path token : String) (params : ListParams) (sent : List Sent) : Prop :=
  sent = [] ∨ ∃ s rest, sent = s :: rest ∧ Asks base path token params s ∧ s.Chain rest

section Calls

variable {base path token : String} {params : ListParams} {sent : List Sent}

theorem Calls.onlyFirst (h : Calls base path token params sent) : Sent.OnlyFirst sent := by
  rcases h with rfl | ⟨s, rest, rfl, -, hrest⟩
  · exact Sent.onlyFirst_nil
  · exact hrest.onlyFirst

/-- A request of a call that carries a token is the request for the list. -/
theorem Calls.asks_of_carries (h : Calls base path token params sent) {s : Sent} (hs : s ∈ sent)
    {carried : String} (hcarried : s.Carries carried) :
    carried = token ∧ Asks base path token params s := by
  rcases h with rfl | ⟨first, rest, rfl, hasks, hrest⟩
  · contradiction
  rcases List.mem_cons.mp hs with rfl | hs
  · have hsame := Option.some.inj (hcarried.symm.trans hasks.carries)
    exact ⟨(String.append_right_inj "Bearer ").mp hsame, hasks⟩
  · exact absurd hcarried (hrest.not_carries s hs carried)

end Calls

theorem calls_list {α : Type} (decode : Json.Bytes → Except Json.Refusal α) (net : Network)
    (base path token : String) (params : ListParams) :
    Calls base path token params (list decode net base path token params).sent := by
  unfold list
  split
  · exact .inl rfl
  · next url hurl =>
    unfold get
    split
    · exact .inl rfl
    · next r hrequest =>
      rcases begins_send net r with
        hnothing | ⟨-, address, haddress, hnothing | ⟨rest, hsent, hrest⟩⟩
      · exact .inl hnothing
      · exact .inl hnothing
      · exact .inr ⟨r.toSent address, rest, hsent, asks_toSent hurl hrequest haddress, hrest⟩

end Client

end Roster
