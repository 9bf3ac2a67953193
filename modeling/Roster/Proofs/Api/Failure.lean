import Roster.Proofs.Api.Reason
/-!
# How a response is classed

A response is classed by its status alone, and only the text of a failure depends on its body. A
body that spells a value gives a reason exactly if that value does; a body that is no document, or
in which a string is not UTF-8 that would have to be read, gives none.
-/

namespace Roster.Response

open Json

variable {text rest : Bytes} {depth : Nat} {r : Option String}

/-! ### Reasons as they are spelt -/

def asJson : Option String → Json
  | none => .null
  | some s => .string s

theorem readsReason_of_readValueUpTo {fuel : Nat}
    (h : readValueUpTo fuel depth text = .ok (asJson r, rest)) : ReadsReason text r rest := by
  cases fuel with
  | zero => contradiction
  | succ fuel =>
    unfold readValueUpTo at h
    split at h
    · contradiction
    next b inner hstart =>
    by_cases hnull : b = 110
    · rw [if_pos hnull] at h
      obtain ⟨after, hword, heq⟩ := bind_eq_ok_iff.mp h
      obtain ⟨hr, rfl⟩ := Prod.mk.inj (Except.ok.inj heq)
      cases r with
      | none => exact .null (hnull ▸ hstart) hword
      | some s => contradiction
    by_cases hquote : b = 34
    · simp only [hquote, isDigit] at h
      obtain ⟨⟨s, after⟩, hs, heq⟩ := bind_eq_ok_iff.mp h
      obtain ⟨hr, rfl⟩ := Prod.mk.inj (Except.ok.inj heq)
      cases r with
      | none => contradiction
      | some s' =>
        obtain rfl := Json.string.inj hr
        exact .text (hquote ▸ hstart) hs
    -- No other value is null or a string.
    rw [if_neg hnull, if_neg hquote] at h
    exfalso
    cases r <;> simp only [asJson] at h <;> grind [bind_eq_ok_iff, stop, blame]

theorem readsReason_of_spells (h : Spells text (asJson r) rest) : ReadsReason text r rest := by
  generalize hv : asJson r = v at h
  cases h with
  | scalar _ _ hread => exact readsReason_of_readValueUpTo (hv ▸ hread)
  | array => cases r <;> contradiction
  | object => cases r <;> contradiction

/-- What a reason is spelt as is no other value. -/
theorem ReadsReason.spelt {v : Json} {after : Bytes} (h : ReadsReason text r rest)
    (hv : Spells text v after) : v = asJson r ∧ after = rest := by
  have hread : ∀ fuel depth, readValueUpTo (fuel + 1) depth text = .ok (asJson r, rest) := by
    intro fuel depth
    unfold readValueUpTo
    cases h with
    | null hstart hnull =>
      rw [hstart]
      exact bind_eq_ok_iff.mpr ⟨_, hnull, rfl⟩
    | text hstart hs =>
      rw [hstart]
      exact bind_eq_ok_iff.mpr ⟨_, hs, rfl⟩
  have hbracket : ∀ b t, skipSpace text = b :: t → b = 110 ∨ b = 34 := by
    intro b t hb
    cases h with
    | null hstart => exact .inl (List.cons.inj (hb.symm.trans hstart)).1
    | text hstart => exact .inr (List.cons.inj (hb.symm.trans hstart)).1
  cases hv with
  | @scalar fuel depth _ _ _ _ _ hscalar =>
    cases fuel with
    | zero => contradiction
    | succ fuel =>
      obtain ⟨hv, hrest⟩ := Prod.mk.inj (Except.ok.inj (hscalar.symm.trans (hread fuel depth)))
      exact ⟨hv, hrest⟩
  | array hstart => exact absurd (hbracket _ _ hstart) (by decide)
  | object hstart => exact absurd (hbracket _ _ hstart) (by decide)

/-- The values of the members that are called `reason`. -/
def reasonsOf (members : List (String × Json)) : List Json :=
  (members.filter (·.1 = "reason")).map Prod.snd

theorem Reasons.spelt {first : Bool} {reasons : List (Option String)}
    (h : Reasons first text reasons rest) {members : List (String × Json)} {after : Bytes}
    (hm : SpellsMembers first text members after) :
    reasonsOf members = reasons.map asJson ∧ after = rest := by
  induction h generalizing members after with
  | done hnext =>
    cases hm with
    | done => exact ⟨rfl, rfl⟩
    | more hnext' => cases hnext.symm.trans hnext'
  | other hnext hname hother hcolon hv _ ih =>
    cases hm with
    | done hnext' => cases hnext.symm.trans hnext'
    | more hnext' hname' hcolon' hv' hm =>
      obtain rfl := Option.some.inj (Except.ok.inj (hnext.symm.trans hnext'))
      obtain ⟨rfl, rfl⟩ := Prod.mk.inj (Except.ok.inj (hname.symm.trans hname'))
      obtain rfl := Except.ok.inj (hcolon.symm.trans hcolon')
      obtain rfl := hv.unique hv'.passes
      obtain ⟨hreasons, hrest⟩ := ih hm
      refine ⟨?_, hrest⟩
      rw [reasonsOf, List.filter_cons_of_neg (by simpa using hother)]
      exact hreasons
  | reason hnext hname hcolon hr _ ih =>
    cases hm with
    | done hnext' => cases hnext.symm.trans hnext'
    | more hnext' hname' hcolon' hv' hm =>
      obtain rfl := Option.some.inj (Except.ok.inj (hnext.symm.trans hnext'))
      obtain ⟨rfl, rfl⟩ := Prod.mk.inj (Except.ok.inj (hname.symm.trans hname'))
      obtain rfl := Except.ok.inj (hcolon.symm.trans hcolon')
      obtain ⟨rfl, rfl⟩ := hr.spelt hv'
      obtain ⟨hreasons, hrest⟩ := ih hm
      refine ⟨?_, hrest⟩
      rw [reasonsOf, List.filter_cons_of_pos (by simp), List.map_cons, List.map_cons]
      exact congrArg _ hreasons

theorem reasons_of_spells {first : Bool} {members : List (String × Json)}
    {reasons : List (Option String)} (h : SpellsMembers first text members rest)
    (hreasons : reasonsOf members = reasons.map asJson) : Reasons first text reasons rest := by
  induction members generalizing first text reasons with
  | nil =>
    cases h with
    | done hnext =>
      obtain rfl := List.map_eq_nil_iff.mp hreasons.symm
      exact .done hnext
  | cons m members ih =>
    cases h with
    | @more _ _ _ name _ _ v _ _ _ hnext hname hcolon hv hm =>
      by_cases hreason : name = "reason"
      · subst hreason
        rw [reasonsOf, List.filter_cons_of_pos (by simp), List.map_cons] at hreasons
        obtain ⟨r, others, rfl, rfl, hothers⟩ := List.map_eq_cons_iff.mp hreasons.symm
        exact .reason hnext hname hcolon (readsReason_of_spells hv) (ih hm hothers.symm)
      · rw [reasonsOf, List.filter_cons_of_neg (by simpa using hreason)] at hreasons
        exact .other hnext hname hreason hcolon hv.passes (ih hm hreasons)

/-! ### Bodies that spell a value -/

/-- A value gives a reason: it has one, and it is a string. -/
inductive GivesReason : Json → String → Prop
  | member {members : List (String × Json)} {s : String} (h : reasonsOf members = [.string s]) :
      GivesReason (.object members) s
  | element {s : String} : GivesReason (.array [.string s]) s

theorem spells_object {members : List (String × Json)} (h : Spells text (.object members) rest) :
    ∃ inner last, skipSpace text = 123 :: inner ∧ SpellsMembers true inner members last ∧
      endObject last = .ok rest := by
  cases h with
  | @scalar fuel _ _ _ _ _ hobject hread =>
    cases fuel with
    | zero => contradiction
    | succ fuel =>
      cases readAs_of_readValueUpTo hread with
      | scalar _ _ hreadable => cases hreadable 0
      | object _ hstart => exact absurd hstart (hobject _)
  | object hstart hmembers hend => exact ⟨_, _, hstart, hmembers, hend⟩

theorem spells_array {items : List Json} (h : Spells text (.array items) rest) :
    ∃ inner last, skipSpace text = 91 :: inner ∧ SpellsItems true inner items last ∧
      endList last = .ok rest := by
  cases h with
  | @scalar fuel _ _ _ _ hlist _ hread =>
    cases fuel with
    | zero => contradiction
    | succ fuel =>
      cases readAs_of_readValueUpTo hread with
      | scalar _ _ hreadable => cases hreadable 0
      | array _ hstart => exact absurd hstart (hlist _)
  | array hstart hitems hend => exact ⟨_, _, hstart, hitems, hend⟩

theorem nextElement_of_endList (h : endList text = .ok rest) :
    nextElement false text = .ok none := by
  unfold endList at h
  unfold nextElement
  grind [stop, blame]

theorem endList_skipSpace (text : Bytes) : endList (skipSpace text) = endList text := by
  unfold endList
  rw [skipSpace_skipSpace]

theorem givesReason_of_explains {s : String} {v : Json} {after : Bytes}
    (h : Explains text (some s) rest) (hv : Spells text v after) : GivesReason v s := by
  generalize hr : some s = r at h
  cases h with
  | @object _ reasons _ _ hstart hreasons hone hend =>
    cases hv with
    | scalar _ hobject => exact absurd hstart (hobject _)
    | array hstart' => cases hstart.symm.trans hstart'
    | object hstart' hmembers =>
      obtain ⟨-, rfl⟩ := List.cons.inj (hstart.symm.trans hstart')
      obtain ⟨hgiven, -⟩ := hreasons.spelt hmembers
      rcases reasons with _ | ⟨r, _ | ⟨r', reasons⟩⟩
      · contradiction
      · obtain rfl : some s = r := hr
        exact .member hgiven
      · simp at hone
  | list hstart hnext hread hend =>
    subst hr
    cases hv with
    | scalar hlist => exact absurd hstart (hlist _)
    | object hstart' => cases hstart.symm.trans hstart'
    | array hstart' hitems =>
      obtain ⟨-, rfl⟩ := List.cons.inj (hstart.symm.trans hstart')
      cases hitems with
      | done hnext' => cases hnext.symm.trans hnext'
      | more hnext' hv hitems =>
        obtain rfl := Option.some.inj (Except.ok.inj (hnext.symm.trans hnext'))
        obtain ⟨rfl, rfl⟩ := hread.spelt hv
        cases hitems with
        | done => exact .element
        | more hmore => cases (nextElement_of_endList hend).symm.trans hmore
  | empty => contradiction

theorem explains_of_givesReason {s : String} {v : Json} (h : GivesReason v s)
    (hv : Spells text v rest) : Explains text (some s) rest := by
  cases h with
  | member hgiven =>
    obtain ⟨inner, last, hstart, hmembers, hend⟩ := spells_object hv
    have hreasons : Reasons true inner [some s] last := reasons_of_spells hmembers hgiven
    exact .object hstart hreasons (Nat.le_refl 1) hend
  | element =>
    obtain ⟨inner, last, hstart, hitems, hend⟩ := spells_array hv
    cases hitems with
    | more hnext hv hitems =>
      cases hitems with
      | done hlast =>
        rw [endList_skipSpace] at hend
        exact .list hstart hnext (readsReason_of_spells hv) hend

/-- In a body that spells a value, that value decides about the reason. -/
theorem explained_iff_of_spells {body : Bytes} {v : Json} (hv : Spells body v rest)
    (hdone : endDocument rest = .ok ()) (s : String) :
    Explained body (some s) ↔ GivesReason v s :=
  ⟨fun ⟨_, h, _⟩ => givesReason_of_explains h hv,
    fun h => ⟨rest, explains_of_givesReason h hv, hdone⟩⟩

/-! ### Bodies that are no documents -/

theorem Reasons.passes {first : Bool} {reasons : List (Option String)}
    (h : Reasons first text reasons rest) : PassesMembers first text rest := by
  induction h with
  | done hnext => exact .done hnext
  | other hnext hname _ hcolon hv _ ih =>
    exact .more hnext (skipText_of_readText hname) hcolon hv ih
  | reason hnext hname hcolon hr _ ih =>
    exact .more hnext (skipText_of_readText hname) hcolon hr.passes ih

theorem Explains.passes (h : Explains text r rest) : Passes text rest := by
  cases h with
  | object hstart hreasons _ hend => exact .object hstart hreasons.passes hend
  | list hstart hnext hr hend =>
    exact .list hstart (.more hnext hr.passes (.done (nextElement_of_endList hend)))
      ((endList_skipSpace _).trans hend)
  | empty hstart hnext hend => exact .list hstart (.done hnext) hend

/-! ### Classing a response -/

section

variable {code : Nat} {body : Bytes}

/-- Why a request failed: for the reason that the body gives, else by the phrase of its status. -/
inductive Says (code : Nat) (body : Bytes) : String → Prop
  | given {s : String} (h : Explained body (some s)) : Says code body s
  | phrase {s : String} (hnone : ∀ s, ¬Explained body (some s))
      (hphrase : Http.Status.phrase? code = some s) : Says code body s
  | unknown (hnone : ∀ s, ¬Explained body (some s)) (hphrase : Http.Status.phrase? code = none) :
      Says code body "unknown error"

theorem says_iff {why : String} : Says code body why ↔ reason code body = why := by
  have hgiven : ∀ s, Explained body (some s) → reason code body = s := fun s h => by
    rw [reason, read_reasonShape_eq_ok_iff.mpr h]
  have hnone : (∀ s, ¬Explained body (some s)) →
      reason code body = (Http.Status.phrase? code).getD "unknown error" := by
    intro h
    unfold reason
    split
    · next s hread => exact absurd (read_reasonShape_eq_ok_iff.mp hread) (h s)
    · rfl
  constructor
  · rintro (h | ⟨h, hphrase⟩ | ⟨h, hphrase⟩)
    · exact hgiven _ h
    · rw [hnone h, hphrase, Option.getD_some]
    · rw [hnone h, hphrase, Option.getD_none]
  · rintro rfl
    by_cases h : ∃ s, Explained body (some s)
    · obtain ⟨s, hs⟩ := h
      exact .given (by rwa [hgiven s hs])
    have h := not_exists.mp h
    rw [hnone h]
    cases hphrase : Http.Status.phrase? code with
    | some s => exact .phrase h hphrase
    | none => exact .unknown h hphrase

theorem value_of_failure {α : Type} {decode : Bytes → Except Refusal α}
    (h : ¬(200 ≤ code ∧ code ≤ 299)) :
    value decode code body = .error (.ofStatus code (reason code body)) := by
  simp [value, failure, Http.Status.isSuccess, h]

theorem value_of_success {α : Type} {decode : Bytes → Except Refusal α}
    (h : 200 ≤ code ∧ code ≤ 299) :
    value decode code body = (decode body).mapError .decode := by
  simp [value, Http.Status.isSuccess, h]

/-- How a response is classed, whatever it is read as. Its status decides first. In a failure the
body decides about the text alone: it is the reason of a body that gives one, also if parts of it
that nobody reads are no UTF-8, and else the phrase of the status. -/
theorem outcome_of_value {α : Type} (decode : Bytes → Except Refusal α) (code : Nat)
    (body : Bytes) :
    (∀ a, value decode code body = .ok a ↔ (200 ≤ code ∧ code ≤ 299) ∧ decode body = .ok a) ∧
    (∀ refusal, value decode code body = .error (.decode refusal) ↔
      (200 ≤ code ∧ code ≤ 299) ∧ decode body = .error refusal) ∧
    (∀ why, value decode code body = .error (.unauthorized why) ↔ code = 401 ∧ Says code body why) ∧
    (∀ why, value decode code body = .error (.forbidden why) ↔ code = 403 ∧ Says code body why) ∧
    (∀ c why, value decode code body = .error (.status c why) ↔
      c = code ∧ ¬(200 ≤ code ∧ code ≤ 299) ∧ code ≠ 401 ∧ code ≠ 403 ∧ Says code body why) ∧
    (∃ why, ∀ w, Says code body w ↔ w = why) ∧
    (¬WellFormed body → ∀ s, ¬Explained body (some s)) ∧
    (∀ v rest, Spells body v rest → endDocument rest = .ok () →
      ∀ s, Explained body (some s) ↔ GivesReason v s) ∧
    (∀ text s rest, readText text = .ok (s, rest) → ∃ raw, text = Url.utf8 raw ++ 34 :: rest) := by
  simp only [← and_assoc]
  refine ⟨⟨⟨⟨?_, ⟨reason code body, fun w => says_iff.trans eq_comm⟩⟩, ?_⟩,
    fun v rest hv hdone => explained_iff_of_spells hv hdone⟩,
    fun text s rest => exists_utf8_of_readText⟩
  · simp only [says_iff]
    by_cases hsuccess : 200 ≤ code ∧ code ≤ 299
    · have h401 : code ≠ 401 := by omega
      have h403 : code ≠ 403 := by omega
      simp only [value_of_success hsuccess, hsuccess, h401, h403]
      cases decode body <;> simp [Except.mapError]
    simp only [value_of_failure hsuccess]
    unfold ApiError.ofStatus
    by_cases h401 : code = 401
    · simp [h401]
    by_cases h403 : code = 403
    · simp [h403]
    · simp [h401, h403, hsuccess, eq_comm]
  · rintro hform s ⟨rest, hs, hdone⟩
    exact hform ⟨rest, hs.passes, hdone⟩

example : reason 502 (Url.utf8 "<html>bad gateway</html>".toList) = "Bad Gateway" := by
  decide +kernel

example : reason 599 [] = "unknown error" := by decide +kernel

end

end Roster.Response
