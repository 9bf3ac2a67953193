import Roster.Json.Reader.Value
import Roster.Proofs.Json.Number
import Roster.Proofs.Outcome
/-!
# What values the reader gives

Not every value can come from a text. In one that does, integers fit in 64 bits, no object has a
name twice, and containers nest no deeper than the reader allows.
-/

namespace Roster.Json

/-- A value that comes from a text when up to `depth - 1` containers may be open. -/
inductive Readable : Nat → Json → Prop
  | null {depth : Nat} : Readable depth .null
  | bool {depth : Nat} (b : Bool) : Readable depth (.bool b)
  | int {depth : Nat} {i : Int} (hword : IsWord i) : Readable depth (.number (.int i))
  | real {depth : Nat} (x : Float) : Readable depth (.number (.real x))
  | string {depth : Nat} (s : String) : Readable depth (.string s)
  | array {depth : Nat} {items : List Json} (hdepth : 0 < depth)
      (hitems : ∀ v ∈ items, Readable depth v) : Readable (depth + 1) (.array items)
  | object {depth : Nat} {members : List (String × Json)} (hdepth : 0 < depth)
      (hnames : (members.map Prod.fst).Nodup) (hmembers : ∀ m ∈ members, Readable depth m.2) :
      Readable (depth + 1) (.object members)

/-! ### Numbers -/

theorem absorb_le {n : Nat} (hn : n ≤ maxWord) (digits : Bytes) :
    (absorb n digits).1 ≤ maxWord := by
  induction digits generalizing n with
  | nil => exact hn
  | cons d rest ih =>
      unfold absorb
      dsimp only
      split
      · next hnext => exact ih hnext
      · exact hn

theorem readable_wholeNumber {depth n : Nat} (positive : Bool) (hn : n ≤ maxWord) :
    Readable depth (.number (wholeNumber positive n)) := by
  unfold wholeNumber
  split
  · exact .int ⟨by omega, by omega⟩
  split
  · next hrange => exact .int ⟨by omega, by omega⟩
  · exact .real _

section Numbers

variable {depth : Nat} {positive : Bool} {significand : Nat} {exponent : Int} {text rest : Bytes}
  {n : Number}

theorem readable_of_realOfParts
    (h : realOfParts positive significand exponent text = .ok (n, rest)) :
    Readable depth (.number n) := by
  unfold realOfParts at h
  split at h
  · obtain ⟨rfl, rfl⟩ := Prod.mk.inj (Except.ok.inj h)
    exact .real _
  · contradiction

theorem readable_of_readExponent
    (h : readExponent positive significand exponent text = .ok (n, rest)) :
    Readable depth (.number n) := by
  revert h
  fun_cases readExponent positive significand exponent text with
  | case1 => exact nofun
  | case2 => exact nofun
  | case3 _ _ _ _ _ _ _ habsorb =>
      intro h
      rw [habsorb] at h
      exact readable_of_realOfParts h
  | case4 _ _ _ _ _ hrange _ habsorb =>
      intro h
      rw [habsorb] at h
      dsimp only at h
      rw [if_pos hrange] at h
      contradiction
  | case5 _ _ _ _ _ hrange _ habsorb =>
      intro h
      rw [habsorb] at h
      dsimp only at h
      rw [if_neg hrange] at h
      obtain ⟨rfl, -⟩ := Prod.mk.inj (Except.ok.inj h)
      exact .real _

theorem readable_of_readScale
    (h : readScale positive significand exponent text = .ok (n, rest)) :
    Readable depth (.number n) := by
  unfold readScale at h
  split at h
  · exact readable_of_readExponent h
  · exact readable_of_readExponent h
  · exact readable_of_realOfParts h

theorem readable_of_readFraction
    (h : readFraction positive significand exponent text = .ok (n, rest)) :
    Readable depth (.number n) := by
  unfold readFraction at h
  dsimp only at h
  split at h
  · split at h
    · contradiction
    · contradiction
  · exact readable_of_readScale h

theorem readable_of_readNumber (h : readNumber positive text = .ok (n, rest)) :
    Readable depth (.number n) := by
  have habsorbed := absorb_le (n := 0) (by decide) (text.takeWhile isDigit)
  have hwhole : ∀ {m : Nat} {after : Bytes}, m ≤ maxWord →
      Except.ok (ε := Fault) (wholeNumber positive m, after) = .ok (n, rest) →
      Readable depth (.number n) := by
    intro m after hm heq
    obtain ⟨rfl, -⟩ := Prod.mk.inj (Except.ok.inj heq)
    exact readable_wholeNumber positive hm
  unfold readNumber at h
  split at h
  · contradiction
  split at h
  · split at h
    · exact readable_of_readFraction h
    · split at h
      · contradiction
      split at h
      · exact readable_of_readExponent h
      · exact hwhole (by decide) h
    · exact hwhole (by decide) h
  split at h
  · dsimp only at h
    split at h
    · exact readable_of_readFraction h
    · exact readable_of_readExponent h
    · exact readable_of_readExponent h
    · split at h
      · exact hwhole habsorbed h
      · exact readable_of_realOfParts h
  · contradiction

end Numbers

/-! ### Members -/

theorem nodup_names_put {members : List (String × Json)} (h : (members.map Prod.fst).Nodup)
    (name : String) (value : Json) : ((put name value members).map Prod.fst).Nodup := by
  rw [map_fst_put]
  split
  · exact h
  · next hnew =>
    refine List.nodup_append.mpr ⟨h, List.pairwise_singleton _ name, fun a ha b hb heq => hnew ?_⟩
    rwa [← List.mem_singleton.mp hb, ← heq]

theorem eq_or_mem_of_mem_put {name : String} {value : Json} {members : List (String × Json)}
    {m : String × Json} (h : m ∈ put name value members) : m.2 = value ∨ m ∈ members := by
  induction members with
  | nil => exact .inl (congrArg Prod.snd (List.mem_singleton.mp h))
  | cons first rest ih =>
      unfold put at h
      split at h
      · rcases List.mem_cons.mp h with rfl | hrest
        · exact .inl rfl
        · exact .inr (List.mem_cons_of_mem first hrest)
      · rcases List.mem_cons.mp h with rfl | hrest
        · exact .inr List.mem_cons_self
        · exact (ih hrest).imp_right (List.mem_cons_of_mem first)

/-! ### Values -/

/-- The ways to read a value: it has no brackets and is readable at any depth, or it is a list or an
object that may still be opened. -/
inductive ReadAs (fuel depth : Nat) (text : Bytes) : Json → Bytes → Prop
  | scalar {v : Json} {rest : Bytes} (hlist : ∀ t, skipSpace text ≠ 91 :: t)
      (hobject : ∀ t, skipSpace text ≠ 123 :: t) (hv : ∀ d, Readable d v) :
      ReadAs fuel depth text v rest
  | array {inner : Bytes} {items : List Json} {last rest : Bytes} (hdepth : 1 < depth)
      (hstart : skipSpace text = 91 :: inner)
      (hitems : readItems fuel (depth - 1) true inner = .ok (items, last))
      (hend : endList last = .ok rest) : ReadAs fuel depth text (.array items) rest
  | object {inner : Bytes} {members : List (String × Json)} {last rest : Bytes} (hdepth : 1 < depth)
      (hstart : skipSpace text = 123 :: inner)
      (hmembers : readMembers fuel (depth - 1) true [] inner = .ok (members, last))
      (hend : endObject last = .ok rest) : ReadAs fuel depth text (.object members) rest

theorem readAs_of_readValueUpTo {fuel depth : Nat} {text : Bytes} {v : Json} {rest : Bytes}
    (h : readValueUpTo (fuel + 1) depth text = .ok (v, rest)) : ReadAs fuel depth text v rest := by
  unfold readValueUpTo at h
  split at h
  · contradiction
  next b t hskip =>
  have hscalar : b ≠ 91 → b ≠ 123 → (∀ d, Readable d v) → ReadAs fuel depth text v rest := by
    intro hlist hobject hv
    refine .scalar (fun t' heq => ?_) (fun t' heq => ?_) hv
    · exact hlist (List.cons.inj (hskip.symm.trans heq)).1
    · exact hobject (List.cons.inj (hskip.symm.trans heq)).1
  split at h
  · next hb =>
    obtain ⟨_, -, heq⟩ := bind_eq_ok_iff.mp h
    obtain ⟨rfl, -⟩ := Prod.mk.inj (Except.ok.inj heq)
    exact hscalar (by simp [hb]) (by simp [hb]) fun _ => .null
  split at h
  · next hb =>
    obtain ⟨_, -, heq⟩ := bind_eq_ok_iff.mp h
    obtain ⟨rfl, -⟩ := Prod.mk.inj (Except.ok.inj heq)
    exact hscalar (by simp [hb]) (by simp [hb]) fun _ => .bool true
  split at h
  · next hb =>
    obtain ⟨_, -, heq⟩ := bind_eq_ok_iff.mp h
    obtain ⟨rfl, -⟩ := Prod.mk.inj (Except.ok.inj heq)
    exact hscalar (by simp [hb]) (by simp [hb]) fun _ => .bool false
  split at h
  · next hb =>
    obtain ⟨⟨n, after⟩, hn, heq⟩ := bind_eq_ok_iff.mp h
    obtain ⟨rfl, -⟩ := Prod.mk.inj (Except.ok.inj heq)
    exact hscalar (by simp [hb]) (by simp [hb]) fun _ => readable_of_readNumber hn
  split at h
  · next hb =>
    obtain ⟨⟨n, after⟩, hn, heq⟩ := bind_eq_ok_iff.mp h
    obtain ⟨rfl, -⟩ := Prod.mk.inj (Except.ok.inj heq)
    exact hscalar (ne_of_isDigit hb rfl) (ne_of_isDigit hb rfl) fun _ => readable_of_readNumber hn
  split at h
  · next hb =>
    obtain ⟨⟨s, after⟩, -, heq⟩ := bind_eq_ok_iff.mp h
    obtain ⟨rfl, -⟩ := Prod.mk.inj (Except.ok.inj heq)
    exact hscalar (by simp [hb]) (by simp [hb]) fun _ => .string s
  split at h
  · next hb =>
    subst hb
    split at h
    · contradiction
    next hdepth =>
    obtain ⟨⟨items, last⟩, hitems, h⟩ := bind_eq_ok_iff.mp h
    obtain ⟨after, hend, heq⟩ := bind_eq_ok_iff.mp h
    obtain ⟨rfl, rfl⟩ := Prod.mk.inj (Except.ok.inj heq)
    exact .array (Nat.not_le.mp hdepth) hskip hitems hend
  split at h
  · next hb =>
    subst hb
    split at h
    · contradiction
    next hdepth =>
    obtain ⟨⟨members, last⟩, hmembers, h⟩ := bind_eq_ok_iff.mp h
    obtain ⟨after, hend, heq⟩ := bind_eq_ok_iff.mp h
    obtain ⟨rfl, rfl⟩ := Prod.mk.inj (Except.ok.inj heq)
    exact .object (Nat.not_le.mp hdepth) hskip hmembers hend
  · contradiction

/-- What a bounded number of calls reads is readable. -/
structure Sound (fuel : Nat) : Prop where
  value {depth : Nat} {text : Bytes} {v : Json} {rest : Bytes} :
    readValueUpTo fuel depth text = .ok (v, rest) → Readable depth v
  items {depth : Nat} {first : Bool} {text : Bytes} {vs : List Json} {rest : Bytes} :
    readItems fuel depth first text = .ok (vs, rest) → ∀ v ∈ vs, Readable depth v
  members {depth : Nat} {first : Bool} {before : List (String × Json)} {text : Bytes}
    {after : List (String × Json)} {rest : Bytes} :
    readMembers fuel depth first before text = .ok (after, rest) →
    (before.map Prod.fst).Nodup → (∀ m ∈ before, Readable depth m.2) →
    (after.map Prod.fst).Nodup ∧ ∀ m ∈ after, Readable depth m.2

variable {fuel : Nat}

theorem Sound.value_succ (h : Sound fuel) {depth : Nat} {text : Bytes} {v : Json} {rest : Bytes}
    (hv : readValueUpTo (fuel + 1) depth text = .ok (v, rest)) : Readable depth v := by
  cases readAs_of_readValueUpTo hv with
  | scalar _ _ hv => exact hv depth
  | array hdepth _ hitems _ =>
      obtain ⟨d, rfl⟩ : ∃ d, depth = d + 1 := ⟨depth - 1, by omega⟩
      exact .array (by omega) (h.items hitems)
  | object hdepth _ hmembers _ =>
      obtain ⟨d, rfl⟩ : ∃ d, depth = d + 1 := ⟨depth - 1, by omega⟩
      obtain ⟨hnames, hvalues⟩ := h.members hmembers List.nodup_nil nofun
      exact .object (by omega) hnames hvalues

theorem Sound.items_succ (h : Sound fuel) {depth : Nat} {first : Bool} {text : Bytes}
    {vs : List Json} {rest : Bytes}
    (hvs : readItems (fuel + 1) depth first text = .ok (vs, rest)) :
    ∀ v ∈ vs, Readable depth v := by
  unfold readItems at hvs
  obtain ⟨next, -, hnext⟩ := bind_eq_ok_iff.mp hvs
  cases next with
  | none =>
      obtain ⟨rfl, -⟩ := Prod.mk.inj (Except.ok.inj hnext)
      exact nofun
  | some text =>
      obtain ⟨⟨w, after⟩, hw, hrest⟩ := bind_eq_ok_iff.mp hnext
      obtain ⟨⟨ws, after⟩, hws, heq⟩ := bind_eq_ok_iff.mp hrest
      obtain ⟨rfl, -⟩ := Prod.mk.inj (Except.ok.inj heq)
      exact List.forall_mem_cons.mpr ⟨h.value hw, h.items hws⟩

theorem Sound.members_succ (h : Sound fuel) {depth : Nat} {first : Bool}
    {before : List (String × Json)} {text : Bytes} {after : List (String × Json)} {rest : Bytes}
    (hmembers : readMembers (fuel + 1) depth first before text = .ok (after, rest))
    (hnames : (before.map Prod.fst).Nodup) (hbefore : ∀ m ∈ before, Readable depth m.2) :
    (after.map Prod.fst).Nodup ∧ ∀ m ∈ after, Readable depth m.2 := by
  unfold readMembers at hmembers
  obtain ⟨next, -, hnext⟩ := bind_eq_ok_iff.mp hmembers
  cases next with
  | none =>
      obtain ⟨rfl, -⟩ := Prod.mk.inj (Except.ok.inj hnext)
      exact ⟨hnames, hbefore⟩
  | some text =>
      obtain ⟨⟨name, past⟩, -, hname⟩ := bind_eq_ok_iff.mp hnext
      obtain ⟨past, -, hcolon⟩ := bind_eq_ok_iff.mp hname
      obtain ⟨⟨v, past⟩, hv, hrest⟩ := bind_eq_ok_iff.mp hcolon
      refine h.members hrest (nodup_names_put hnames name v) fun m hm => ?_
      rcases eq_or_mem_of_mem_put hm with heq | hm
      · exact heq ▸ h.value hv
      · exact hbefore m hm

theorem sound (fuel : Nat) : Sound fuel := by
  induction fuel with
  | zero => exact ⟨nofun, nofun, nofun⟩
  | succ fuel ih => exact ⟨ih.value_succ, ih.items_succ, ih.members_succ⟩

/-! ### Documents -/

/-- A text is a whole document when nothing but blanks follows what is read from it. -/
theorem wholeDocument_eq_ok_iff {α : Type} {read : Bytes → Except Fault (α × Bytes)} {text : Bytes}
    {a : α} :
    wholeDocument read text = .ok a ↔
      ∃ rest, read text = .ok (a, rest) ∧ endDocument rest = .ok () := by
  unfold wholeDocument
  constructor
  · intro h
    split at h
    · next heq =>
      obtain ⟨⟨w, rest⟩, hw, hend⟩ := bind_eq_ok_iff.mp heq
      obtain ⟨_, hend, hvalue⟩ := bind_eq_ok_iff.mp hend
      rw [← Except.ok.inj h, ← Except.ok.inj hvalue]
      exact ⟨rest, hw, hend⟩
    · contradiction
  · rintro ⟨rest, hread, hend⟩
    simp only [hread, hend, bind, Except.bind]

theorem ofBytes_eq_ok_iff {text : Bytes} {v : Json} :
    ofBytes text = .ok v ↔
      ∃ rest, readValue maxDepth text = .ok (v, rest) ∧ endDocument rest = .ok () :=
  wholeDocument_eq_ok_iff

/-- A document is a readable value. -/
theorem readable_of_ofBytes {text : Bytes} {v : Json} (h : ofBytes text = .ok v) :
    Readable maxDepth v := by
  obtain ⟨rest, hv, -⟩ := ofBytes_eq_ok_iff.mp h
  exact (sound _).value hv

end Roster.Json
