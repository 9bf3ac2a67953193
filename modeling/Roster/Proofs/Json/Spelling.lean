import Roster.Proofs.Json.Readable
/-!
# Names that a text repeats

A text may give a name of an object more than once. The value that is read from it has the name once,
at the place where it came first and with what came last, and so have all the objects inside.
-/

namespace Roster.Json

/-! ### What a text spells -/

mutual

/-- A value as a text spells it, with every member that is written, and what follows it. -/
inductive Spells : Bytes → Json → Bytes → Prop
  | scalar {fuel depth : Nat} {text : Bytes} {v : Json} {rest : Bytes}
      (hlist : ∀ t, skipSpace text ≠ 91 :: t) (hobject : ∀ t, skipSpace text ≠ 123 :: t)
      (hread : readValueUpTo fuel depth text = .ok (v, rest)) : Spells text v rest
  | array {text inner : Bytes} {items : List Json} {last rest : Bytes}
      (hstart : skipSpace text = 91 :: inner) (hitems : SpellsItems true inner items last)
      (hend : endList last = .ok rest) : Spells text (.array items) rest
  | object {text inner : Bytes} {members : List (String × Json)} {last rest : Bytes}
      (hstart : skipSpace text = 123 :: inner) (hmembers : SpellsMembers true inner members last)
      (hend : endObject last = .ok rest) : Spells text (.object members) rest

/-- The elements of a list up to its end. -/
inductive SpellsItems : Bool → Bytes → List Json → Bytes → Prop
  | done {first : Bool} {text : Bytes} (hnext : nextElement first text = .ok none) :
      SpellsItems first text [] (skipSpace text)
  | more {first : Bool} {text next : Bytes} {v : Json} {between : Bytes} {items : List Json}
      {rest : Bytes} (hnext : nextElement first text = .ok (some next)) (hv : Spells next v between)
      (hitems : SpellsItems false between items rest) : SpellsItems first text (v :: items) rest

/-- The members of an object up to its end, as often as they are written. -/
inductive SpellsMembers : Bool → Bytes → List (String × Json) → Bytes → Prop
  | done {first : Bool} {text : Bytes} (hnext : nextName first text = .ok none) :
      SpellsMembers first text [] (skipSpace text)
  | more {first : Bool} {text next : Bytes} {name : String} {colon value : Bytes} {v : Json}
      {between : Bytes} {members : List (String × Json)} {rest : Bytes}
      (hnext : nextName first text = .ok (some next)) (hname : readText next = .ok (name, colon))
      (hcolon : pastColon colon = .ok value) (hv : Spells value v between)
      (hmembers : SpellsMembers false between members rest) :
      SpellsMembers first text ((name, v) :: members) rest

end

/-! ### What becomes of repeated names -/

mutual

/-- A value in which each object has each name once, with what was given last. -/
def merged : Json → Json
  | .array items => .array (mergedItems items)
  | .object members => .object (mergedMembers [] members)
  | v => v

def mergedItems : List Json → List Json
  | [] => []
  | v :: rest => merged v :: mergedItems rest

/-- Members that join those before. -/
def mergedMembers (before : List (String × Json)) : List (String × Json) → List (String × Json)
  | [] => before
  | (name, v) :: rest => mergedMembers (put name (merged v) before) rest

end

/-- What was given last for a name. -/
def lastOf (name : String) (members : List (String × Json)) : Option Json :=
  (members.filter (·.1 = name)).getLast?.map Prod.snd

theorem find?_mergedMembers (name : String) (before members : List (String × Json)) :
    find? name (mergedMembers before members) =
      ((lastOf name members).map merged).or (find? name before) := by
  induction members generalizing before with
  | nil => rfl
  | cons m rest ih =>
      obtain ⟨n, v⟩ := m
      rw [mergedMembers, ih]
      by_cases hn : n = name
      · subst hn
        rw [find?_put_self]
        simp only [lastOf, decide_true, List.filter_cons_of_pos, List.getLast?_cons]
        cases (rest.filter (·.1 = n)).getLast? <;> rfl
      · rw [find?_put_of_ne (Ne.symm hn)]
        simp [lastOf, hn]

theorem nodup_names_mergedMembers {before : List (String × Json)}
    (h : (before.map Prod.fst).Nodup) (members : List (String × Json)) :
    ((mergedMembers before members).map Prod.fst).Nodup := by
  induction members generalizing before with
  | nil => exact h
  | cons m rest ih => exact ih (nodup_names_put h m.1 _)

/-! ### Reading -/

/-- What a bounded number of calls reads is spelt by the text, up to names that it repeats. -/
structure Merges (fuel : Nat) : Prop where
  value {depth : Nat} {text : Bytes} {v : Json} {rest : Bytes} :
    readValueUpTo fuel depth text = .ok (v, rest) → ∃ spelt, Spells text spelt rest ∧ v = spelt.merged
  items {depth : Nat} {first : Bool} {text : Bytes} {vs : List Json} {rest : Bytes} :
    readItems fuel depth first text = .ok (vs, rest) →
    ∃ spelt, SpellsItems first text spelt rest ∧ vs = mergedItems spelt
  members {depth : Nat} {first : Bool} {before : List (String × Json)} {text : Bytes}
    {after : List (String × Json)} {rest : Bytes} :
    readMembers fuel depth first before text = .ok (after, rest) →
    ∃ spelt, SpellsMembers first text spelt rest ∧ after = mergedMembers before spelt

variable {fuel : Nat}

theorem Merges.value_succ (h : Merges fuel) {depth : Nat} {text : Bytes} {v : Json} {rest : Bytes}
    (hv : readValueUpTo (fuel + 1) depth text = .ok (v, rest)) :
    ∃ spelt, Spells text spelt rest ∧ v = spelt.merged := by
  cases readAs_of_readValueUpTo hv with
  | scalar hlist hobject hreadable =>
      -- No container is readable at depth zero.
      have hmerged : v = v.merged := by cases hreadable 0 <;> rfl
      exact ⟨v, .scalar hlist hobject hv, hmerged⟩
  | array _ hstart hitems hend =>
      obtain ⟨spelt, hspelt, rfl⟩ := h.items hitems
      exact ⟨.array spelt, .array hstart hspelt hend, rfl⟩
  | object _ hstart hmembers hend =>
      obtain ⟨spelt, hspelt, rfl⟩ := h.members hmembers
      exact ⟨.object spelt, .object hstart hspelt hend, rfl⟩

theorem Merges.items_succ (h : Merges fuel) {depth : Nat} {first : Bool} {text : Bytes}
    {vs : List Json} {rest : Bytes}
    (hvs : readItems (fuel + 1) depth first text = .ok (vs, rest)) :
    ∃ spelt, SpellsItems first text spelt rest ∧ vs = mergedItems spelt := by
  unfold readItems at hvs
  obtain ⟨next, hnext, hrest⟩ := bind_eq_ok_iff.mp hvs
  cases next with
  | none =>
      obtain ⟨rfl, rfl⟩ := Prod.mk.inj (Except.ok.inj hrest)
      exact ⟨[], .done hnext, rfl⟩
  | some next =>
      obtain ⟨⟨w, between⟩, hw, hrest⟩ := bind_eq_ok_iff.mp hrest
      obtain ⟨⟨ws, after⟩, hws, heq⟩ := bind_eq_ok_iff.mp hrest
      obtain ⟨rfl, rfl⟩ := Prod.mk.inj (Except.ok.inj heq)
      obtain ⟨spelt, hspelt, rfl⟩ := h.value hw
      obtain ⟨others, hothers, rfl⟩ := h.items hws
      exact ⟨spelt :: others, .more hnext hspelt hothers, rfl⟩

theorem Merges.members_succ (h : Merges fuel) {depth : Nat} {first : Bool}
    {before : List (String × Json)} {text : Bytes} {after : List (String × Json)} {rest : Bytes}
    (hmembers : readMembers (fuel + 1) depth first before text = .ok (after, rest)) :
    ∃ spelt, SpellsMembers first text spelt rest ∧ after = mergedMembers before spelt := by
  unfold readMembers at hmembers
  obtain ⟨next, hnext, hrest⟩ := bind_eq_ok_iff.mp hmembers
  cases next with
  | none =>
      obtain ⟨rfl, rfl⟩ := Prod.mk.inj (Except.ok.inj hrest)
      exact ⟨[], .done hnext, rfl⟩
  | some next =>
      obtain ⟨⟨name, colon⟩, hname, hrest⟩ := bind_eq_ok_iff.mp hrest
      obtain ⟨value, hcolon, hrest⟩ := bind_eq_ok_iff.mp hrest
      obtain ⟨⟨v, between⟩, hv, hrest⟩ := bind_eq_ok_iff.mp hrest
      obtain ⟨spelt, hspelt, rfl⟩ := h.value hv
      obtain ⟨others, hothers, rfl⟩ := h.members hrest
      exact ⟨(name, spelt) :: others, .more hnext hname hcolon hspelt hothers, rfl⟩

theorem merges (fuel : Nat) : Merges fuel := by
  induction fuel with
  | zero => exact ⟨nofun, nofun, nofun⟩
  | succ fuel ih => exact ⟨ih.value_succ, ih.items_succ, ih.members_succ⟩

/-- A document is what its text spells, with the last of what is given for each name. -/
theorem exists_spelt_of_ofBytes {text : Bytes} {v : Json} (h : ofBytes text = .ok v) :
    ∃ spelt rest, Spells text spelt rest ∧ endDocument rest = .ok () ∧ v = spelt.merged := by
  obtain ⟨rest, hv, hend⟩ := ofBytes_eq_ok_iff.mp h
  obtain ⟨spelt, hspelt, hmerged⟩ := (merges _).value hv
  exact ⟨spelt, rest, hspelt, hend, hmerged⟩

end Roster.Json
