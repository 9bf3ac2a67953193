import Roster.Proofs.Http.Exchange
/-!
# Requests that differ in their authorization

Servers of which the replies are given answer two requests alike that differ in nothing but their
authorization. The first request is all that tells the two exchanges apart, for an authorization is
not sent on.
-/

namespace Roster.Http

/-- Two requests differ in nothing but their authorization. -/
structure Sent.Twin (s s' : Sent) : Prop where
  method : s'.method = s.method
  url : s'.url = s.url
  body : s'.body = s.body
  others : s'.headers.filter (·.1 ≠ "authorization") = s.headers.filter (·.1 ≠ "authorization")

theorem Sent.Twin.redirected {s s' : Sent} (h : s.Twin s') (method : String) (url : Url) :
    s'.redirected method url = s.redirected method url := by
  rw [Sent.redirected, Sent.redirected, h.others]

theorem Sent.Twin.line {s s' : Sent} (h : s.Twin s') : s'.line = s.line := by
  rw [Sent.line, Sent.line, h.method, h.url]

theorem Sent.Twin.host {s s' : Sent} (h : s.Twin s') : s'.host = s.host := by
  rw [Sent.host, Sent.host, h.url]

theorem lookup_filter_of_ne {name other : String} (hname : name ≠ other)
    (headers : List (String × String)) :
    (headers.filter (·.1 ≠ other)).lookup name = headers.lookup name := by
  induction headers with
  | nil => rfl
  | cons p rest ih =>
      by_cases hp : p.1 = other
      · have hne : (name == p.1) = false := by simp [hp, hname]
        rw [List.filter_cons_of_neg (by simp [hp]), ih, List.lookup_cons, hne]
      · rw [List.filter_cons_of_pos (by simp [hp]), List.lookup_cons, List.lookup_cons, ih]

/-- Headers of other names are the same. -/
theorem Sent.Twin.header {s s' : Sent} (h : s.Twin s') {name : String}
    (hname : name ≠ "authorization") : s'.header name = s.header name := by
  unfold Sent.header
  rw [← lookup_filter_of_ne hname, h.others, lookup_filter_of_ne hname]

/-- What two requests put on the wire: nothing, or the two of them and after that the same. -/
inductive Sent.Twins : List Sent → List Sent → Prop
  | nothing : Twins [] []
  | first {s s' : Sent} (h : s.Twin s') (rest : List Sent) : Twins (s :: rest) (s' :: rest)

/-! ### Exchanges -/

/-- Two outcomes differ in nothing but the authorization of what was sent first. -/
structure Outcome.Twin (o o' : Outcome) : Prop where
  result : o'.result = o.result
  network : o'.network = o.network
  sent : Sent.Twins o.sent o'.sent

namespace Outcome

variable {s s' : Sent}

theorem twin_silent (result : Except Failure Response) (network : Network) :
    Twin ⟨result, [], network⟩ ⟨result, [], network⟩ := ⟨rfl, rfl, .nothing⟩

theorem twin_after (h : s.Twin s') (o : Outcome) : Twin (o.after s) (o.after s') :=
  ⟨rfl, rfl, .first h o.sent⟩

theorem twin_alone (h : s.Twin s') (result : Except Failure Response) (network : Network) :
    Twin ⟨result, [s], network⟩ ⟨result, [s'], network⟩ := twin_after h ⟨result, [], network⟩

end Outcome

open Outcome in
theorem Sent.Twin.exchange {s s' : Sent} (h : s.Twin s') (first : Url) (left : Nat)
    (replies : List Reply) :
    (exchange first left replies s).Twin (exchange first left replies s') := by
  unfold Http.exchange
  simp only [h.url, h.method, h.redirected]
  split
  · exact twin_silent _ _
  split
  · exact twin_alone h _ _
  split
  · split
    · exact twin_alone h _ _
    · split
      · split
        · exact twin_alone h _ _
        -- Both are sent on as the same request.
        · exact twin_after h _
        · exact twin_alone h _ _
      · exact twin_alone h _ _
  · exact twin_alone h _ _

/-- What becomes of a request that can be sent depends on the network, not on its authorization. -/
theorem Network.twin_send (net : Network) {r r' : Request} (hr : r.unsendable? = none)
    (hr' : r'.unsendable? = none) (htarget : r'.target = r.target)
    (htwin : ∀ url, (r.toSent url).Twin (r'.toSent url)) : (net.send r).Twin (net.send r') := by
  have hurl : r'.url? = r.url? := by rw [Request.url?, Request.url?, htarget]
  unfold Network.send
  rw [hr, hr', hurl]
  dsimp only
  cases r.url? with
  | error reason => exact Outcome.twin_silent _ _
  | ok url =>
      dsimp only
      split
      · exact Outcome.twin_silent _ _
      cases net with
      | unreachable => exact Outcome.twin_silent _ _
      | server replies => exact (htwin url).exchange url _ replies

end Roster.Http
