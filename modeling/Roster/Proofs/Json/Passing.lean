import Mathlib.Data.List.DropRight
import Roster.Proofs.Json.SkipNumber
import Roster.Proofs.Json.SkipText
import Roster.Proofs.Json.Spelling
/-!
# What is passed over

A value that nobody asked for is passed over exactly if it has the form of one, and up to its end.
Every value that a text spells is passed over up to the place where it ends, so a reader that passes
over a value goes on where one that reads it would.
-/

namespace Roster.Json

variable {text rest : Bytes} {fuel : Nat}

/-! ### How much is taken -/

theorem length_lt_of_skipSpace {b : UInt8} (h : skipSpace text = b :: rest) :
    rest.length < text.length := by
  have hle := length_skipSpace_le text
  rw [h, List.length_cons] at hle
  omega

theorem length_dropWhile_isDigit_le (text : Bytes) :
    (text.dropWhile isDigit).length ≤ text.length :=
  (List.dropWhile_sublist _).length_le

theorem length_le_of_readWord {word : List Char} (h : readWord word text = .ok rest) :
    rest.length ≤ text.length := by
  induction word generalizing text with
  | nil => rw [← Except.ok.inj h]
  | cons c word ih =>
      cases text with
      | nil => contradiction
      | cons b inner =>
        unfold readWord at h
        split at h
        · have hrest := ih h
          rw [List.length_cons]
          omega
        · contradiction

theorem length_le_of_skipExponent (h : skipExponent text = .ok rest) :
    rest.length ≤ text.length := by
  unfold skipExponent at h
  grind [length_dropWhile_isDigit_le, blame, stop]

theorem length_le_of_skipScale (h : skipScale text = .ok rest) :
    rest.length ≤ text.length := by
  unfold skipScale at h
  grind [→ length_le_of_skipExponent]

theorem length_le_of_skipFraction (h : skipFraction text = .ok rest) :
    rest.length ≤ text.length := by
  unfold skipFraction at h
  grind [length_dropWhile_isDigit_le, → length_le_of_skipScale, blame, stop]

theorem length_lt_of_skipNumber (h : skipNumber text = .ok rest) :
    rest.length < text.length := by
  unfold skipNumber at h
  grind [length_dropWhile_isDigit_le, → length_le_of_skipFraction, blame, stop]

theorem length_lt_of_skipEscape (h : skipEscape text = .ok rest) :
    rest.length < text.length := by
  unfold skipEscape at h
  split at h
  · contradiction
  · obtain ⟨⟨n, after⟩, hunit, heq⟩ := bind_eq_ok_iff.mp h
    have hlength := length_of_readUnit hunit
    rw [← Except.ok.inj heq, List.length_cons, hlength]
    dsimp only
    omega
  · split at h
    · rw [← Except.ok.inj h, List.length_cons]
      omega
    · contradiction

theorem length_lt_of_skipTextUpTo (h : skipTextUpTo fuel text = .ok rest) :
    rest.length < text.length := by
  induction fuel generalizing text with
  | zero => contradiction
  | succ fuel ih =>
      unfold skipTextUpTo at h
      split at h
      · contradiction
      next b inner =>
      rw [List.length_cons]
      split at h
      · rw [Except.ok.inj h]
        omega
      split at h
      · obtain ⟨after, hescape, h⟩ := bind_eq_ok_iff.mp h
        have hlength := length_lt_of_skipEscape hescape
        have hrest := ih h
        omega
      split at h
      · contradiction
      · have hrest := ih h
        omega

theorem length_le_of_nextElement {first : Bool} {next : Bytes}
    (h : nextElement first text = .ok (some next)) : next.length ≤ text.length := by
  unfold nextElement at h
  have hspace := length_skipSpace_le text
  grind [length_skipSpace_le, blame, stop]

theorem length_lt_of_nextName {first : Bool} {next : Bytes}
    (h : nextName first text = .ok (some next)) : next.length < text.length := by
  unfold nextName at h
  grind [length_skipSpace_le, blame, stop]

theorem length_lt_of_pastColon (h : pastColon text = .ok rest) : rest.length < text.length := by
  unfold pastColon at h
  grind [length_skipSpace_le, blame, stop]

theorem length_lt_of_endList (h : endList text = .ok rest) : rest.length < text.length := by
  unfold endList at h
  grind [length_skipSpace_le, blame, stop]

theorem length_lt_of_endObject (h : endObject text = .ok rest) : rest.length < text.length := by
  unfold endObject at h
  grind [length_skipSpace_le, blame, stop]

/-! ### Values -/

mutual

/-- A value by its form alone, and what follows it. One without parts takes a single call. -/
inductive Passes : Bytes → Bytes → Prop
  | scalar {text rest : Bytes} (hskip : skipValueUpTo 1 text = .ok rest) : Passes text rest
  | list {text inner last rest : Bytes} (hstart : skipSpace text = 91 :: inner)
      (hitems : PassesItems true inner last) (hend : endList last = .ok rest) : Passes text rest
  | object {text inner last rest : Bytes} (hstart : skipSpace text = 123 :: inner)
      (hmembers : PassesMembers true inner last) (hend : endObject last = .ok rest) :
      Passes text rest

inductive PassesItems : Bool → Bytes → Bytes → Prop
  | done {first : Bool} {text : Bytes} (hnext : nextElement first text = .ok none) :
      PassesItems first text (skipSpace text)
  | more {first : Bool} {text next between rest : Bytes}
      (hnext : nextElement first text = .ok (some next)) (hv : Passes next between)
      (hitems : PassesItems false between rest) : PassesItems first text rest

inductive PassesMembers : Bool → Bytes → Bytes → Prop
  | done {first : Bool} {text : Bytes} (hnext : nextName first text = .ok none) :
      PassesMembers first text (skipSpace text)
  | more {first : Bool} {text next colon value between rest : Bytes}
      (hnext : nextName first text = .ok (some next)) (hname : skipText next = .ok colon)
      (hcolon : pastColon colon = .ok value) (hv : Passes value between)
      (hmembers : PassesMembers false between rest) : PassesMembers first text rest

end

/-- A value without parts is passed over as it is read. -/
theorem skipValueUpTo_of_readValueUpTo {depth : Nat} {v : Json}
    (h : readValueUpTo fuel depth text = .ok (v, rest)) (hlist : ∀ t, skipSpace text ≠ 91 :: t)
    (hobject : ∀ t, skipSpace text ≠ 123 :: t) : skipValueUpTo 1 text = .ok rest := by
  cases fuel with
  | zero => contradiction
  | succ fuel =>
  unfold readValueUpTo at h
  unfold skipValueUpTo
  cases hskip : skipSpace text with
  | nil =>
    rw [hskip] at h
    contradiction
  | cons b t =>
  rw [hskip] at h
  have hword : ∀ (word : List Char) (w : Json), (do .ok (w, ← readWord word t)) = .ok (v, rest) →
      readWord word t = .ok rest := by
    intro word w h
    obtain ⟨after, hafter, heq⟩ := bind_eq_ok_iff.mp h
    rw [hafter, (Prod.mk.inj (Except.ok.inj heq)).2]
  dsimp only at h ⊢
  split at h
  · next hb => rw [if_pos hb]; exact hword _ _ h
  next hnull =>
  rw [if_neg hnull]
  split at h
  · next hb => rw [if_pos hb]; exact hword _ _ h
  next htrue =>
  rw [if_neg htrue]
  split at h
  · next hb => rw [if_pos hb]; exact hword _ _ h
  next hfalse =>
  rw [if_neg hfalse]
  split at h
  · next hb =>
    rw [if_pos hb]
    obtain ⟨⟨n, after⟩, hn, heq⟩ := bind_eq_ok_iff.mp h
    rw [skipNumber_of_readNumber hn]
    exact congrArg Except.ok (Prod.mk.inj (Except.ok.inj heq)).2
  next hminus =>
  rw [if_neg hminus]
  split at h
  · next hb =>
    rw [if_pos hb]
    obtain ⟨⟨n, after⟩, hn, heq⟩ := bind_eq_ok_iff.mp h
    rw [skipNumber_of_readNumber hn]
    exact congrArg Except.ok (Prod.mk.inj (Except.ok.inj heq)).2
  next hdigit =>
  rw [if_neg hdigit]
  split at h
  · next hb =>
    rw [if_pos hb]
    obtain ⟨⟨s, after⟩, hs, heq⟩ := bind_eq_ok_iff.mp h
    rw [skipText_of_readText hs]
    exact congrArg Except.ok (Prod.mk.inj (Except.ok.inj heq)).2
  split at h
  · next hb => exact absurd (hb ▸ hskip) (hlist t)
  split at h
  · next hb => exact absurd (hb ▸ hskip) (hobject t)
  · contradiction

mutual

theorem Spells.passes {text rest : Bytes} {v : Json} (h : Spells text v rest) :
    Passes text rest := by
  cases h with
  | scalar hlist hobject hread =>
      exact .scalar (skipValueUpTo_of_readValueUpTo hread hlist hobject)
  | array hstart hitems hend => exact .list hstart hitems.passes hend
  | object hstart hmembers hend => exact .object hstart hmembers.passes hend

theorem SpellsItems.passes {first : Bool} {text rest : Bytes} {vs : List Json}
    (h : SpellsItems first text vs rest) : PassesItems first text rest := by
  cases h with
  | done hnext => exact .done hnext
  | more hnext hv hitems => exact .more hnext hv.passes hitems.passes

theorem SpellsMembers.passes {first : Bool} {text rest : Bytes}
    {members : List (String × Json)} (h : SpellsMembers first text members rest) :
    PassesMembers first text rest := by
  cases h with
  | done hnext => exact .done hnext
  | more hnext hname hcolon hv hmembers =>
      exact .more hnext (skipText_of_readText hname) hcolon hv.passes hmembers.passes

end

/-! ### One call -/

theorem skipValueUpTo_succ_iff : skipValueUpTo (fuel + 1) text = .ok rest ↔
    skipValueUpTo 1 text = .ok rest ∨
      (∃ inner, skipSpace text = 91 :: inner ∧ skipItems fuel true inner = .ok rest) ∨
        ∃ inner, skipSpace text = 123 :: inner ∧ skipMembers fuel true inner = .ok rest := by
  unfold skipValueUpTo
  cases skipSpace text with
  | nil => simp [stop]
  | cons b t =>
    by_cases hlist : b = 91
    · simp [hlist, skipItems, stop, isDigit]
    by_cases hobject : b = 123
    · simp [hobject, skipMembers, stop, isDigit]
    · simp [hlist, hobject]

theorem skipSpace_skipSpace (text : Bytes) : skipSpace (skipSpace text) = skipSpace text :=
  List.dropWhile_idempotent _ _

/-- Blanks in front of a value do not matter. -/
theorem skipValueUpTo_skipSpace_iff :
    skipValueUpTo fuel (skipSpace text) = .ok rest ↔ skipValueUpTo fuel text = .ok rest := by
  cases fuel with
  | zero => exact ⟨nofun, nofun⟩
  | succ fuel =>
    unfold skipValueUpTo
    rw [skipSpace_skipSpace]

theorem length_lt_of_scalar (h : skipValueUpTo 1 text = .ok rest) : rest.length < text.length := by
  unfold skipValueUpTo at h
  split at h
  · contradiction
  next b t hskip =>
  have hlength := length_lt_of_skipSpace hskip
  split at h
  · have := length_le_of_readWord h
    omega
  split at h
  · have := length_le_of_readWord h
    omega
  split at h
  · have := length_le_of_readWord h
    omega
  split at h
  · have := length_lt_of_skipNumber h
    omega
  split at h
  · have := length_lt_of_skipNumber h
    rw [List.length_cons] at this
    omega
  split at h
  · have := length_lt_of_skipTextUpTo h
    omega
  split at h
  · contradiction
  split at h
  · contradiction
  · contradiction
  

theorem exists_of_skipValueUpTo (h : skipValueUpTo fuel text = .ok rest) :
    ∃ b inner, skipSpace text = b :: inner ∧ b ≠ 93 := by
  cases fuel with
  | zero => contradiction
  | succ fuel =>
    unfold skipValueUpTo at h
    cases hskip : skipSpace text with
    | nil =>
      rw [hskip] at h
      contradiction
    | cons b inner =>
      refine ⟨b, inner, rfl, ?_⟩
      rintro rfl
      simp [hskip, blame, isDigit] at h

/-- Elements are passed over as a reader of elements finds them. -/
theorem skipItems_succ_iff {first : Bool} : skipItems (fuel + 1) first text = .ok rest ↔
    (nextElement first text = .ok none ∧ skipSpace text = 93 :: rest) ∨
      ∃ next between, nextElement first text = .ok (some next) ∧
        skipValueUpTo fuel next = .ok between ∧ skipItems fuel false between = .ok rest := by
  conv_lhs => unfold skipItems
  unfold nextElement
  cases hskip : skipSpace text with
  | nil => simp [stop]
  | cons b t =>
    dsimp only
    by_cases hend : b = 93
    · simp [hend]
    rw [if_neg hend, if_neg hend]
    cases first with
    | true => simp [bind_eq_ok_iff, hend]
    | false =>
      by_cases hcomma : b = 44
      · simp only [Bool.false_eq_true, if_false, hcomma, if_true, bind_eq_ok_iff]
        constructor
        · -- A value cannot be missing, nor start with the bracket that ends the list.
          rintro ⟨between, hv, hitems⟩
          obtain ⟨c, inner, hnext, hc⟩ := exists_of_skipValueUpTo hv
          rw [← skipValueUpTo_skipSpace_iff, hnext] at hv
          exact .inr ⟨c :: inner, between, by simp [hnext, hc], hv, hitems⟩
        · rintro (⟨hnone, -⟩ | ⟨next, between, hsome, hv, hitems⟩)
          · cases hnext : skipSpace t with
            | nil => simp [hnext, stop] at hnone
            | cons c inner => grind [blame]
          · cases hnext : skipSpace t with
            | nil => simp [hnext, stop] at hsome
            | cons c inner =>
              have heq : c :: inner = next := by grind [blame]
              rw [← heq, ← hnext, skipValueUpTo_skipSpace_iff] at hv
              exact ⟨between, hv, hitems⟩
      · simp [hcomma, blame, hend]

theorem skipMembers_succ_iff {first : Bool} : skipMembers (fuel + 1) first text = .ok rest ↔
    (nextName first text = .ok none ∧ skipSpace text = 125 :: rest) ∨
      ∃ next colon value between, nextName first text = .ok (some next) ∧
        skipText next = .ok colon ∧ pastColon colon = .ok value ∧
        skipValueUpTo fuel value = .ok between ∧ skipMembers fuel false between = .ok rest := by
  conv_lhs => unfold skipMembers
  unfold nextName
  cases hskip : skipSpace text with
  | nil => simp [stop]
  | cons b t =>
    dsimp only
    by_cases hend : b = 125
    · simp [hend]
    rw [if_neg hend, if_neg hend]
    have hmember : ∀ inner, (do
        let after ← pastColon (← skipText inner)
        skipMembers fuel false (← skipValueUpTo fuel after)) = .ok rest ↔
          ∃ colon value between, skipText inner = .ok colon ∧ pastColon colon = .ok value ∧
            skipValueUpTo fuel value = .ok between ∧ skipMembers fuel false between = .ok rest := by
      simp [bind_eq_ok_iff]
    cases first with
    | true =>
      have hb : skipSpace (b :: t) = b :: t := by rw [← hskip, skipSpace_skipSpace]
      simp only [if_true, pure_bind, hb]
      by_cases hquote : b = 34
      · simp only [hquote, if_true]
        rw [hmember]
        simp
      · simp [hquote, blame, hend]
    | false =>
      simp only [Bool.false_eq_true, if_false]
      by_cases hcomma : b = 44
      · simp only [hcomma, if_true, pure_bind]
        cases hnext : skipSpace t with
        | nil => simp [stop]
        | cons c inner =>
          dsimp only
          by_cases hquote : c = 34
          · simp only [hquote, if_true]
            rw [hmember]
            simp
          · simp only [hquote, if_false]
            grind [blame]
      · simp [hcomma, blame, hend, bind, Except.bind]

/-! ### What is passed over has the form of a value -/

theorem endList_of_end (h : skipSpace text = 93 :: rest) : endList (skipSpace text) = .ok rest := by
  rw [endList, skipSpace_skipSpace, h]
  rfl

theorem endObject_of_end (h : skipSpace text = 125 :: rest) :
    endObject (skipSpace text) = .ok rest := by
  rw [endObject, skipSpace_skipSpace, h]
  rfl

/-- What a bounded number of calls passes over has the form of a value. -/
structure PassesOnly (fuel : Nat) : Prop where
  value {text rest : Bytes} : skipValueUpTo fuel text = .ok rest → Passes text rest
  items {first : Bool} {text rest : Bytes} : skipItems fuel first text = .ok rest →
    ∃ last, PassesItems first text last ∧ endList last = .ok rest
  members {first : Bool} {text rest : Bytes} : skipMembers fuel first text = .ok rest →
    ∃ last, PassesMembers first text last ∧ endObject last = .ok rest

theorem passesOnly (fuel : Nat) : PassesOnly fuel := by
  induction fuel with
  | zero => exact ⟨nofun, nofun, nofun⟩
  | succ fuel ih =>
    refine ⟨fun h => ?_, fun h => ?_, fun h => ?_⟩
    · rcases skipValueUpTo_succ_iff.mp h with h | ⟨inner, hstart, h⟩ | ⟨inner, hstart, h⟩
      · exact .scalar h
      · obtain ⟨last, hitems, hend⟩ := ih.items h
        exact .list hstart hitems hend
      · obtain ⟨last, hmembers, hend⟩ := ih.members h
        exact .object hstart hmembers hend
    · rcases skipItems_succ_iff.mp h with ⟨hnext, hend⟩ | ⟨next, between, hnext, hv, h⟩
      · exact ⟨_, .done hnext, endList_of_end hend⟩
      · obtain ⟨last, hitems, hend⟩ := ih.items h
        exact ⟨last, .more hnext (ih.value hv) hitems, hend⟩
    · rcases skipMembers_succ_iff.mp h with
        ⟨hnext, hend⟩ | ⟨next, colon, value, between, hnext, hname, hcolon, hv, h⟩
      · exact ⟨_, .done hnext, endObject_of_end hend⟩
      · obtain ⟨last, hmembers, hend⟩ := ih.members h
        exact ⟨last, .more hnext hname hcolon (ih.value hv) hmembers, hend⟩

/-! ### Whatever has the form of a value is passed over -/

mutual

theorem Passes.length_lt {text rest : Bytes} : Passes text rest → rest.length < text.length
  | .scalar hskip => length_lt_of_scalar hskip
  | .list hstart hitems hend => by
      have hinner := length_lt_of_skipSpace hstart
      have hlast := hitems.length_le
      have hrest := length_lt_of_endList hend
      omega
  | .object hstart hmembers hend => by
      have hinner := length_lt_of_skipSpace hstart
      have hlast := hmembers.length_le
      have hrest := length_lt_of_endObject hend
      omega

theorem PassesItems.length_le {first : Bool} {text rest : Bytes} : PassesItems first text rest →
    rest.length ≤ text.length
  | .done _ => length_skipSpace_le text
  | .more hnext hv hitems => by
      have hnext := length_le_of_nextElement hnext
      have hbetween := hv.length_lt
      have hrest := hitems.length_le
      omega

theorem PassesMembers.length_le {first : Bool} {text rest : Bytes} :
    PassesMembers first text rest → rest.length ≤ text.length
  | .done _ => length_skipSpace_le text
  | .more hnext hname hcolon hv hmembers => by
      have hnext := length_lt_of_nextName hnext
      have hname := length_lt_of_skipTextUpTo hname
      have hcolon := length_lt_of_pastColon hcolon
      have hbetween := hv.length_lt
      have hrest := hmembers.length_le
      omega

end

theorem skipSpace_of_nextElement {first : Bool} (h : nextElement first text = .ok none)
    (hend : endList (skipSpace text) = .ok rest) : skipSpace text = 93 :: rest := by
  rw [endList, skipSpace_skipSpace] at hend
  unfold nextElement at h
  grind [blame, stop]

theorem skipSpace_of_nextName {first : Bool} (h : nextName first text = .ok none)
    (hend : endObject (skipSpace text) = .ok rest) : skipSpace text = 125 :: rest := by
  rw [endObject, skipSpace_skipSpace] at hend
  unfold nextName at h
  grind [blame, stop]

mutual

/-- Two calls for each byte are enough, and two more. -/
theorem Passes.skipValueUpTo {text rest : Bytes} : Passes text rest → ∀ {fuel : Nat},
    2 * text.length + 2 ≤ fuel → skipValueUpTo fuel text = .ok rest
  | .scalar hskip, fuel, hfuel => by
      obtain ⟨fuel, rfl⟩ : ∃ n, fuel = n + 1 := ⟨fuel - 1, by omega⟩
      exact skipValueUpTo_succ_iff.mpr (.inl hskip)
  | .list hstart hitems hend, fuel, hfuel => by
      obtain ⟨fuel, rfl⟩ : ∃ n, fuel = n + 1 := ⟨fuel - 1, by omega⟩
      have hinner := length_lt_of_skipSpace hstart
      have hskip := hitems.skipItems hend (show _ ≤ fuel by omega)
      exact skipValueUpTo_succ_iff.mpr (.inr (.inl ⟨_, hstart, hskip⟩))
  | .object hstart hmembers hend, fuel, hfuel => by
      obtain ⟨fuel, rfl⟩ : ∃ n, fuel = n + 1 := ⟨fuel - 1, by omega⟩
      have hinner := length_lt_of_skipSpace hstart
      have hskip := hmembers.skipMembers hend (show _ ≤ fuel by omega)
      exact skipValueUpTo_succ_iff.mpr (.inr (.inr ⟨_, hstart, hskip⟩))

theorem PassesItems.skipItems {first : Bool} {text last rest : Bytes} :
    PassesItems first text last → endList last = .ok rest → ∀ {fuel : Nat},
    2 * text.length + 3 ≤ fuel → skipItems fuel first text = .ok rest
  | .done hnext, hend, fuel, hfuel => by
      obtain ⟨fuel, rfl⟩ : ∃ n, fuel = n + 1 := ⟨fuel - 1, by omega⟩
      exact skipItems_succ_iff.mpr (.inl ⟨hnext, skipSpace_of_nextElement hnext hend⟩)
  | .more hnext hv hitems, hend, fuel, hfuel => by
      obtain ⟨fuel, rfl⟩ : ∃ n, fuel = n + 1 := ⟨fuel - 1, by omega⟩
      have hlength := length_le_of_nextElement hnext
      have hbetween := hv.length_lt
      have hvalue := hv.skipValueUpTo (show _ ≤ fuel by omega)
      have hskip := hitems.skipItems hend (show _ ≤ fuel by omega)
      exact skipItems_succ_iff.mpr (.inr ⟨_, _, hnext, hvalue, hskip⟩)

theorem PassesMembers.skipMembers {first : Bool} {text last rest : Bytes} :
    PassesMembers first text last → endObject last = .ok rest → ∀ {fuel : Nat},
    2 * text.length + 3 ≤ fuel → skipMembers fuel first text = .ok rest
  | .done hnext, hend, fuel, hfuel => by
      obtain ⟨fuel, rfl⟩ : ∃ n, fuel = n + 1 := ⟨fuel - 1, by omega⟩
      exact skipMembers_succ_iff.mpr (.inl ⟨hnext, skipSpace_of_nextName hnext hend⟩)
  | .more hnext hname hcolon hv hmembers, hend, fuel, hfuel => by
      obtain ⟨fuel, rfl⟩ : ∃ n, fuel = n + 1 := ⟨fuel - 1, by omega⟩
      have hlength := length_lt_of_nextName hnext
      have hpast := length_lt_of_skipTextUpTo hname
      have hstart := length_lt_of_pastColon hcolon
      have hbetween := hv.length_lt
      have hvalue := hv.skipValueUpTo (show _ ≤ fuel by omega)
      have hskip := hmembers.skipMembers hend (show _ ≤ fuel by omega)
      exact skipMembers_succ_iff.mpr (.inr ⟨_, _, _, _, hnext, hname, hcolon, hvalue, hskip⟩)

end

/-- A value is passed over exactly if it has the form of one. -/
theorem skipValue_eq_ok_iff : skipValue text = .ok rest ↔ Passes text rest :=
  ⟨(passesOnly _).value, fun h => h.skipValueUpTo (Nat.le_refl _)⟩

theorem Passes.unique {other : Bytes} (h : Passes text rest) (h' : Passes text other) :
    rest = other :=
  Except.ok.inj ((skipValue_eq_ok_iff.mpr h).symm.trans (skipValue_eq_ok_iff.mpr h'))

/-- A text has the form of a whole document, whatever its strings hold. -/
def WellFormed (text : Bytes) : Prop := ∃ rest, Passes text rest ∧ endDocument rest = .ok ()

end Roster.Json
