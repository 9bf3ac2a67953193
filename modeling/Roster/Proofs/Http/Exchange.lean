import Roster.Http.Network
/-!
# What sending a request puts on the wire

A request is followed by those that the servers redirect it to, each made from the one before. None
of these has an authorization, whatever the servers answer.
-/

namespace Roster.Http

/-- A request carries a bearer token. -/
def Sent.Carries (s : Sent) (token : String) : Prop :=
  s.header "authorization" = some ("Bearer " ++ token)

/-- One request is made by following a redirection of another. -/
def Sent.Redirects (s t : Sent) : Prop := ∃ method url, t = s.redirected method url

/-- A request and those that are made by following redirections, each of the one before it. -/
inductive Sent.Chain : Sent → List Sent → Prop
  | alone (s : Sent) : Chain s []
  | redirect {s t : Sent} {rest : List Sent} (hredirect : s.Redirects t) (hrest : Chain t rest) :
      Chain s (t :: rest)

/-! ### Redirections -/

theorem Sent.header_redirected (s : Sent) (method : String) (url : Url) :
    (s.redirected method url).header "authorization" = none := by
  refine List.lookup_eq_none_iff.mpr fun p hp => ?_
  have hkept := of_decide_eq_true (List.mem_filter.mp hp).2
  exact bne_iff_ne.mpr (Ne.symm hkept)

theorem Sent.Redirects.not_carries {s t : Sent} (h : s.Redirects t) (token : String) :
    ¬t.Carries token := by
  obtain ⟨method, url, rfl⟩ := h
  rw [Sent.Carries, Sent.header_redirected]
  exact nofun

/-- No request that is made by following a redirection carries a token. -/
theorem Sent.Chain.not_carries {s : Sent} {rest : List Sent} (h : s.Chain rest) :
    ∀ t ∈ rest, ∀ token, ¬t.Carries token := by
  induction h with
  | alone => exact nofun
  | redirect hredirect _ ih => exact List.forall_mem_cons.mpr ⟨hredirect.not_carries, ih⟩

/-- All of some requests but the first are made by following redirections, and carry no token. -/
def Sent.OnlyFirst (sent : List Sent) : Prop :=
  ∀ s rest, sent = s :: rest → s.Chain rest ∧ ∀ t ∈ rest, ∀ token, ¬t.Carries token

theorem Sent.onlyFirst_nil : OnlyFirst [] := nofun

theorem Sent.Chain.onlyFirst {s : Sent} {rest : List Sent} (h : s.Chain rest) :
    OnlyFirst (s :: rest) := by
  intro t others heq
  obtain ⟨rfl, rfl⟩ := List.cons.inj heq
  exact ⟨h, h.not_carries⟩

/-! ### Exchanges -/

/-- What a request puts on the wire: nothing, or itself and redirections of it. -/
def Sent.Begins (s : Sent) (sent : List Sent) : Prop :=
  sent = [] ∨ ∃ rest, sent = s :: rest ∧ s.Chain rest

theorem Sent.begins_alone (s : Sent) : s.Begins [s] := .inr ⟨[], rfl, .alone s⟩

theorem Sent.Redirects.begins_cons {s t : Sent} {sent : List Sent} (h : s.Redirects t)
    (ht : t.Begins sent) : s.Begins (s :: sent) := by
  rcases ht with rfl | ⟨rest, rfl, hrest⟩
  · exact s.begins_alone
  · exact .inr ⟨t :: rest, rfl, .redirect h hrest⟩

theorem begins_exchange (first : Url) (left : Nat) (replies : List Reply) (s : Sent) :
    s.Begins (exchange first left replies s).sent := by
  fun_induction exchange first left replies s with
  | case1 => exact .inl rfl
  | case2 => exact Sent.begins_alone _
  | case3 => exact Sent.begins_alone _
  | case4 => exact Sent.begins_alone _
  | case5 _ _ _ _ _ _ _ _ _ url method _ _ ih =>
      exact Sent.Redirects.begins_cons ⟨method, url, rfl⟩ ih
  | case6 => exact Sent.begins_alone _
  | case7 => exact Sent.begins_alone _
  | case8 => exact Sent.begins_alone _

/-- Whatever the network, a request puts on the wire what its headers allow, or nothing. -/
theorem begins_send (net : Network) (r : Request) :
    (net.send r).sent = [] ∨
      r.unsendable? = none ∧ ∃ url, r.url? = .ok url ∧ (r.toSent url).Begins (net.send r).sent := by
  unfold Network.send
  split
  · exact .inl rfl
  split
  · exact .inl rfl
  · next hsendable _ url hurl =>
    dsimp only
    split
    · exact .inl rfl
    split
    · exact .inl rfl
    · exact .inr ⟨hsendable, url, hurl, begins_exchange url _ _ _⟩

end Roster.Http
