import Roster.Api.Error
import Roster.Proofs.Json.Passing
/-!
# The reason for a failure

A body gives a reason if it is an object with one member of that name that is a string, or a list of
one string. Other members are only passed over, so what they hold has no part in it.
-/

namespace Roster.Response

open Json

/-! ### What gives a reason -/

/-- A string, or null for no reason. -/
inductive ReadsReason : Bytes → Option String → Bytes → Prop
  | null {text word rest : Bytes} (hstart : skipSpace text = 110 :: word)
      (hnull : readWord "ull".toList word = .ok rest) : ReadsReason text none rest
  | text {text inner : Bytes} {s : String} {rest : Bytes} (hstart : skipSpace text = 34 :: inner)
      (hs : readText inner = .ok (s, rest)) : ReadsReason text (some s) rest

/-- The reasons among the members of an object, up to its end. -/
inductive Reasons : Bool → Bytes → List (Option String) → Bytes → Prop
  | done {first : Bool} {text : Bytes} (hnext : nextName first text = .ok none) :
      Reasons first text [] (skipSpace text)
  | other {first : Bool} {text next : Bytes} {name : String} {colon value between : Bytes}
      {reasons : List (Option String)} {rest : Bytes}
      (hnext : nextName first text = .ok (some next)) (hname : readText next = .ok (name, colon))
      (hother : name ≠ "reason") (hcolon : pastColon colon = .ok value)
      (hv : Passes value between) (hreasons : Reasons false between reasons rest) :
      Reasons first text reasons rest
  | reason {first : Bool} {text next colon value : Bytes} {r : Option String} {between : Bytes}
      {reasons : List (Option String)} {rest : Bytes}
      (hnext : nextName first text = .ok (some next))
      (hname : readText next = .ok ("reason", colon)) (hcolon : pastColon colon = .ok value)
      (hr : ReadsReason value r between) (hreasons : Reasons false between reasons rest) :
      Reasons first text (r :: reasons) rest

/-- An explanation, which may lack a reason but not have two. -/
inductive Explains (text : Bytes) : Option String → Bytes → Prop
  | object {inner : Bytes} {reasons : List (Option String)} {last rest : Bytes}
      (hstart : skipSpace text = 123 :: inner) (hreasons : Reasons true inner reasons last)
      (hone : reasons.length ≤ 1) (hend : endObject last = .ok rest) :
      Explains text reasons.head?.join rest
  | list {inner next : Bytes} {r : Option String} {last rest : Bytes}
      (hstart : skipSpace text = 91 :: inner) (hnext : nextElement true inner = .ok (some next))
      (hr : ReadsReason next r last) (hend : endList last = .ok rest) : Explains text r rest
  | empty {inner rest : Bytes} (hstart : skipSpace text = 91 :: inner)
      (hnext : nextElement true inner = .ok none) (hend : endList (skipSpace inner) = .ok rest) :
      Explains text none rest

/-- Nothing but blanks follows an explanation in a body that is one. -/
def Explained (body : Bytes) (r : Option String) : Prop :=
  ∃ rest, Explains body r rest ∧ endDocument rest = .ok ()

/-! ### Reading a reason -/

variable {text rest : Bytes} {depth : Nat} {r : Option String}

theorem refuseKind_ne_ok {α : Type} {expected : String} {a : α × Bytes} :
    refuseKind expected text ≠ .ok a := by
  unfold refuseKind
  cases text with
  | nil => exact nofun
  | cons b inner =>
    dsimp only
    repeat' split
    all_goals simp [bind_eq_ok_iff, stop, blame]

theorem nullable_text_eq_ok_iff :
    Shape.text.nullable.read depth text = .ok (r, rest) ↔ ReadsReason text r rest := by
  constructor
  · intro h
    unfold Shape.nullable at h
    dsimp only at h
    split at h
    · next word hstart =>
      obtain ⟨after, hnull, heq⟩ := bind_eq_ok_iff.mp h
      obtain ⟨rfl, rfl⟩ := Prod.mk.inj (Except.ok.inj heq)
      exact .null hstart hnull
    · obtain ⟨⟨s, after⟩, htext, heq⟩ := bind_eq_ok_iff.mp h
      obtain ⟨rfl, rfl⟩ := Prod.mk.inj (Except.ok.inj heq)
      unfold Shape.text at htext
      dsimp only at htext
      rw [skipSpace_skipSpace] at htext
      split at htext
      · contradiction
      next b inner hstart =>
      split at htext
      · next hquote => exact .text (hquote ▸ hstart) htext
      · exact absurd htext refuseKind_ne_ok
  · rintro (⟨hstart, hnull⟩ | ⟨hstart, hs⟩)
    · simp only [Shape.nullable, hstart, hnull, bind, Except.bind]
    · have hskip := skipSpace_skipSpace text
      rw [hstart] at hskip
      simp [Shape.nullable, Shape.text, hstart, hskip, hs, bind, Except.bind]

theorem ReadsReason.passes (h : ReadsReason text r rest) : Passes text rest := by
  refine .scalar ?_
  unfold skipValueUpTo
  cases h with
  | null hstart hnull =>
    rw [hstart]
    exact hnull
  | text hstart hs =>
    rw [hstart]
    exact skipText_of_readText hs

/-- What was seen of members that were all reasons. -/
def seen (reasons : List (Option String)) : List (String × Option String) :=
  reasons.map ("reason", ·)

theorem find?_explanation (name : String) : explanation.fields.find? (·.name = name) =
    if name = "reason" then some ⟨"reason", Shape.text.nullable, some none⟩ else none := by
  simp [explanation, List.find?_singleton, eq_comm]

theorem lookup_seen (reasons : List (Option String)) :
    (seen reasons).lookup "reason" = reasons.head? := by
  cases reasons with
  | nil => rfl
  | cons r rest => simp [seen]

/-- Members are read up to the end as they are spelt, and one reason at most. -/
theorem reasons_of_readFields {fuel : Nat} {first : Bool} (before : List (Option String))
    {after : List (String × Option String)} (hbefore : before.length ≤ 1)
    (h : explanation.readFields depth fuel first (seen before) text = .ok (after, rest)) :
    ∃ reasons, Reasons first text reasons rest ∧ after = seen (before ++ reasons) ∧
      (before ++ reasons).length ≤ 1 := by
  induction fuel generalizing first before text with
  | zero => contradiction
  | succ fuel ih =>
    unfold Record.readFields at h
    obtain ⟨next, hnext, h⟩ := bind_eq_ok_iff.mp h
    cases next with
    | none =>
      obtain ⟨rfl, rfl⟩ := Prod.mk.inj (Except.ok.inj h)
      exact ⟨[], .done hnext, by rw [List.append_nil], by rwa [List.append_nil]⟩
    | some next =>
      obtain ⟨⟨name, colon⟩, hname, h⟩ := bind_eq_ok_iff.mp h
      dsimp only at h
      rw [find?_explanation] at h
      split at h
      · next hfind =>
        have hother : name ≠ "reason" := fun heq => by simp [heq] at hfind
        obtain ⟨value, hcolon, h⟩ := bind_eq_ok_iff.mp h
        obtain ⟨between, hskip, h⟩ := bind_eq_ok_iff.mp h
        obtain ⟨reasons, hreasons, hafter, hone⟩ := ih before hbefore h
        exact ⟨reasons, .other hnext hname hother hcolon (skipValue_eq_ok_iff.mp hskip) hreasons,
          hafter, hone⟩
      · next f hfind =>
        split at hfind
        · next hreason =>
          subst hreason
          obtain rfl := Option.some.inj hfind
          rw [lookup_seen] at h
          split at h
          · contradiction
          next hfirst =>
          obtain rfl : before = [] := by simpa using hfirst
          obtain ⟨value, hcolon, h⟩ := bind_eq_ok_iff.mp h
          obtain ⟨⟨r, between⟩, hr, h⟩ := bind_eq_ok_iff.mp h
          obtain ⟨reasons, hreasons, hafter, hone⟩ := ih [r] (Nat.le_refl 1) h
          exact ⟨r :: reasons, .reason hnext hname hcolon (nullable_text_eq_ok_iff.mp hr) hreasons,
            hafter, hone⟩
        · contradiction

theorem readFields_of_reasons {first : Bool} {reasons : List (Option String)}
    (h : Reasons first text reasons rest) (before : List (Option String))
    (hone : (before ++ reasons).length ≤ 1) {fuel : Nat} (hfuel : text.length < fuel) :
    explanation.readFields depth fuel first (seen before) text =
      .ok (seen (before ++ reasons), rest) := by
  induction h generalizing before fuel with
  | done hnext =>
    obtain ⟨fuel, rfl⟩ : ∃ n, fuel = n + 1 := ⟨fuel - 1, by omega⟩
    unfold Record.readFields
    rw [hnext, List.append_nil]
    rfl
  | @other _ _ next name colon value between _ _ hnext hname hother hcolon hv _ ih =>
    obtain ⟨fuel, rfl⟩ : ∃ n, fuel = n + 1 := ⟨fuel - 1, by omega⟩
    have hlength := length_lt_of_nextName hnext
    have hpast := length_lt_of_skipTextUpTo (skipText_of_readText hname)
    have hstart := length_lt_of_pastColon hcolon
    have hbetween := hv.length_lt
    unfold Record.readFields
    simp only [hnext, hname, hcolon, find?_explanation, if_neg hother, skipValue_eq_ok_iff.mpr hv,
      bind, Except.bind]
    exact ih before hone (by omega)
  | @reason _ _ next colon value r between reasons _ hnext hname hcolon hr _ ih =>
    obtain ⟨fuel, rfl⟩ : ∃ n, fuel = n + 1 := ⟨fuel - 1, by omega⟩
    obtain rfl : before = [] := by
      simp only [List.length_append, List.length_cons] at hone
      exact List.length_eq_zero_iff.mp (by omega)
    have hlength := length_lt_of_nextName hnext
    have hpast := length_lt_of_skipTextUpTo (skipText_of_readText hname)
    have hstart := length_lt_of_pastColon hcolon
    have hbetween := hr.passes.length_lt
    have hread : Shape.text.nullable.read depth value = .ok (r, between) :=
      nullable_text_eq_ok_iff.mpr hr
    have hrest := ih [r] hone (show _ < fuel by omega)
    unfold Record.readFields
    simp only [hnext, hname, hcolon, find?_explanation, if_true, lookup_seen, hread, bind,
      Except.bind]
    exact hrest

/-! ### A whole body -/

theorem complete_seen {reasons : List (Option String)} (hone : reasons.length ≤ 1) :
    Record.complete (seen reasons) explanation.fields = .ok [reasons.head?.join] := by
  rcases reasons with _ | ⟨r, _ | ⟨r', reasons⟩⟩
  · rfl
  · rfl
  · simp at hone

theorem readListed_eq_ok_iff {values : List (Option String)} :
    explanation.readListed depth explanation.fields 0 text = .ok (values, rest) ↔
      (∃ next r, nextElement true text = .ok (some next) ∧ ReadsReason next r rest ∧ values = [r]) ∨
        (nextElement true text = .ok none ∧ rest = skipSpace text ∧ values = [none]) := by
  have hfields : explanation.fields = [⟨"reason", Shape.text.nullable, some none⟩] := rfl
  rw [hfields, Record.readListed, bind_eq_ok_iff]
  constructor
  · rintro ⟨next | next, hnext, h⟩
    · obtain ⟨rfl, rfl⟩ := Prod.mk.inj (Except.ok.inj h)
      exact .inr ⟨hnext, rfl, rfl⟩
    · obtain ⟨⟨r, after⟩, hr, heq⟩ := bind_eq_ok_iff.mp h
      obtain ⟨rfl, rfl⟩ := Prod.mk.inj (Except.ok.inj heq)
      exact .inl ⟨next, r, hnext, nullable_text_eq_ok_iff.mp hr, rfl⟩
  · rintro (⟨next, r, hnext, hr, rfl⟩ | ⟨hnext, rfl, rfl⟩)
    · exact ⟨some next, hnext, bind_eq_ok_iff.mpr ⟨(r, rest), nullable_text_eq_ok_iff.mpr hr, rfl⟩⟩
    · exact ⟨none, hnext, rfl⟩

theorem read_explanation_eq_ok_iff {values : List (Option String)} :
    explanation.read maxDepth text = .ok (values, rest) ↔
      ∃ r, values = [r] ∧ Explains text r rest := by
  unfold Record.read
  constructor
  · intro h
    split at h
    · contradiction
    next b inner hstart =>
    split at h
    · next hlist =>
      subst hlist
      obtain ⟨⟨vs, last⟩, hlisted, h⟩ := bind_eq_ok_iff.mp h
      obtain ⟨after, hend, heq⟩ := bind_eq_ok_iff.mp h
      obtain ⟨rfl, rfl⟩ := Prod.mk.inj (Except.ok.inj heq)
      rcases readListed_eq_ok_iff.mp hlisted with ⟨next, r, hnext, hr, rfl⟩ | ⟨hnext, rfl, rfl⟩
      · exact ⟨r, rfl, .list hstart hnext hr hend⟩
      · exact ⟨none, rfl, .empty hstart hnext hend⟩
    split at h
    · next hobject =>
      subst hobject
      obtain ⟨⟨after, last⟩, hfields, h⟩ := bind_eq_ok_iff.mp h
      obtain ⟨reasons, hreasons, rfl, hone⟩ := reasons_of_readFields [] (Nat.zero_le 1) hfields
      dsimp only at h
      rw [List.nil_append] at hone h
      rw [complete_seen hone] at h
      obtain ⟨after, hend, heq⟩ := bind_eq_ok_iff.mp h
      obtain ⟨rfl, rfl⟩ := Prod.mk.inj (Except.ok.inj heq)
      exact ⟨_, rfl, .object hstart hreasons hone hend⟩
    · exact absurd h refuseKind_ne_ok
  · rintro ⟨r, rfl, hr⟩
    cases hr with
    | object hstart hreasons hone hend =>
      rw [hstart]
      refine bind_eq_ok_iff.mpr ⟨_, readFields_of_reasons hreasons [] hone (Nat.lt_succ_self _), ?_⟩
      dsimp only
      rw [List.nil_append, complete_seen hone]
      exact bind_eq_ok_iff.mpr ⟨_, hend, rfl⟩
    | list hstart hnext hr hend =>
      rw [hstart]
      exact bind_eq_ok_iff.mpr ⟨_, readListed_eq_ok_iff.mpr (.inl ⟨_, _, hnext, hr, rfl⟩),
        bind_eq_ok_iff.mpr ⟨_, hend, rfl⟩⟩
    | empty hstart hnext hend =>
      rw [hstart]
      exact bind_eq_ok_iff.mpr ⟨_, readListed_eq_ok_iff.mpr (.inr ⟨hnext, rfl, rfl⟩),
        bind_eq_ok_iff.mpr ⟨_, hend, rfl⟩⟩

/-- A body is read as an explanation exactly if it is one. -/
theorem read_reasonShape_eq_ok_iff {body : Bytes} :
    read reasonShape body = .ok r ↔ Explained body r := by
  rw [read, wholeDocument_eq_ok_iff]
  refine exists_congr fun rest => and_congr_left fun _ => ?_
  constructor
  · intro h
    obtain ⟨⟨values, after⟩, hread, heq⟩ := bind_eq_ok_iff.mp h
    obtain ⟨r', rfl, hr⟩ := read_explanation_eq_ok_iff.mp hread
    obtain ⟨rfl, rfl⟩ := Prod.mk.inj (Except.ok.inj heq)
    exact hr
  · intro h
    exact bind_eq_ok_iff.mpr ⟨_, read_explanation_eq_ok_iff.mpr ⟨r, rfl, h⟩, rfl⟩

end Roster.Response
