import Roster.Listing.Plan
/-!
# Handlers that answer alike

Two handlers that give the same answers, as long as their states are related, cannot be told apart
by a plan: it prints the same, ends the same, and leaves related states.
-/

namespace Roster.Plan

variable {σ α ω ω' : Type}

/-- In related states two handlers give the same answers and come to related states. -/
structure Handler.Alike (R : ω → ω' → Prop) (h : Handler σ ω) (h' : Handler σ ω') : Prop where
  instances : ∀ params s s', R s s' → (h'.instances params s').1 = (h.instances params s).1 ∧
    R (h.instances params s).2 (h'.instances params s').2
  clusters : ∀ params s s', R s s' → (h'.clusters params s').1 = (h.clusters params s).1 ∧
    R (h.clusters params s).2 (h'.clusters params s').2
  selection : ∀ s s', R s s' → (h'.selection s').1 = (h.selection s).1 ∧
    R (h.selection s).2 (h'.selection s').2

/-- A plan that is run against both of two such handlers. -/
theorem Handler.Alike.runFrom {R : ω → ω' → Prop} {h : Handler σ ω} {h' : Handler σ ω'}
    (halike : Handler.Alike R h h') (p : Plan σ α) (out : String) {s : ω} {s' : ω'} (hs : R s s') :
    (p.runFrom h' out s').out = (p.runFrom h out s).out ∧
      (p.runFrom h' out s').result = (p.runFrom h out s).result ∧
      R (p.runFrom h out s).state (p.runFrom h' out s').state := by
  induction p generalizing out s s' with
  | finish result => exact ⟨rfl, rfl, hs⟩
  | print text next ih => exact ih _ hs
  | instances params next ih =>
      obtain ⟨hanswer, hstate⟩ := halike.instances params s s' hs
      simp only [Plan.runFrom, hanswer]
      exact ih _ out hstate
  | clusters params next ih =>
      obtain ⟨hanswer, hstate⟩ := halike.clusters params s s' hs
      simp only [Plan.runFrom, hanswer]
      exact ih _ out hstate
  | selection next ih =>
      obtain ⟨hanswer, hstate⟩ := halike.selection s s' hs
      simp only [Plan.runFrom, hanswer]
      exact ih _ out hstate

theorem Handler.Alike.run {R : ω → ω' → Prop} {h : Handler σ ω} {h' : Handler σ ω'}
    (halike : Handler.Alike R h h') (p : Plan σ α) {s : ω} {s' : ω'} (hs : R s s') :
    (p.run h' s').out = (p.run h s).out ∧ (p.run h' s').result = (p.run h s).result ∧
      R (p.run h s).state (p.run h' s').state := halike.runFrom p "" hs

end Roster.Plan
