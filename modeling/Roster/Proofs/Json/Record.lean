import Mathlib.Data.List.Nodup
import Roster.Json.Record
import Roster.Proofs.Outcome
/-!
# What a record takes from a value

A field is given by the members of its name in an object, and by the element at its place in a list.
A record is taken from a value exactly if each value given for a field has the shape of the field, if
each field is given or may be absent, and if a list has no more elements than there are fields.
-/

namespace Roster.Json

variable {α : Type}

/-- The values given for a field: under its name in an object, at its place in a list. -/
def given (name : String) (place : Nat) : Json → List Json
  | .object members => (members.filter (·.1 = name)).map Prod.snd
  | .array items => items[place]?.toList
  | _ => []

def Shape.Accepts (s : Shape α) (v : Json) : Prop := ∃ a, s.ofJson v = .ok a

/-- What a field comes to: the value that is given for it first, or the value for its absence. -/
def Field.Takes (f : Field α) (values : List Json) (a : α) : Prop :=
  match values.head? with
  | some v => f.shape.ofJson v = .ok a
  | none => f.absent = some a

namespace Record

variable {r : Record α}

/-! ### Fields in an object -/

theorem find?_of_nodup {fields : List (Field α)} (hnames : (fields.map (·.name)).Nodup) {f : Field α}
    (hf : f ∈ fields) : fields.find? (·.name = f.name) = some f := by
  induction fields with
  | nil => contradiction
  | cons first rest ih =>
      rw [List.map_cons, List.nodup_cons] at hnames
      rcases List.mem_cons.mp hf with rfl | hf
      · simp
      · have hne : first.name ≠ f.name := fun heq =>
          hnames.1 (heq ▸ List.mem_map_of_mem hf)
        rw [List.find?_cons_of_neg (by simpa using hne), ih hnames.2 hf]

/-- What was seen of the members for a field: the value that is given first. -/
theorem lookup_membersOf {members : List (String × Json)} {seen : List (String × α)}
    (h : r.membersOf members = .ok seen) {f : Field α}
    (hf : r.fields.find? (·.name = f.name) = some f) (place : Nat) :
    (∀ v ∈ given f.name place (.object members), f.shape.Accepts v) ∧
      ∀ a, (seen.lookup f.name).or f.absent = some a ↔
        f.Takes (given f.name place (.object members)) a := by
  induction members generalizing seen with
  | nil =>
      obtain rfl := Except.ok.inj h
      exact ⟨nofun, fun a => Iff.rfl⟩
  | cons m rest ih =>
      obtain ⟨name, v⟩ := m
      unfold membersOf at h
      -- The first member of a name is the one that is looked up, also if there are others behind it.
      by_cases hname : name = f.name
      · subst hname
        rw [hf] at h
        obtain ⟨b, hb, h⟩ := bind_eq_ok_iff.mp h
        obtain ⟨others, hothers, h⟩ := bind_eq_ok_iff.mp h
        obtain rfl := Except.ok.inj h
        have hgiven : given f.name place (.object ((f.name, v) :: rest)) =
            v :: given f.name place (.object rest) := by simp [given]
        rw [hgiven]
        refine ⟨List.forall_mem_cons.mpr ⟨⟨b, hb⟩, (ih hothers).1⟩, fun a => ?_⟩
        rw [List.lookup_cons_self, Option.some_or, Field.Takes, List.head?_cons]
        dsimp only
        rw [hb, Option.some.injEq, Except.ok.injEq]
      · have hgiven : given f.name place (.object ((name, v) :: rest)) =
            given f.name place (.object rest) := by simp [given, hname]
        rw [hgiven]
        split at h
        · exact ih h
        · obtain ⟨b, hb, h⟩ := bind_eq_ok_iff.mp h
          obtain ⟨others, hothers, h⟩ := bind_eq_ok_iff.mp h
          obtain rfl := Except.ok.inj h
          rw [List.lookup_cons, beq_false_of_ne (Ne.symm hname)]
          exact ih hothers

/-- Members are seen if all values of the fields are of their shapes. -/
theorem exists_membersOf {members : List (String × Json)}
    (h : ∀ f ∈ r.fields, ∀ v ∈ given f.name 0 (.object members), f.shape.Accepts v) :
    ∃ seen, r.membersOf members = .ok seen := by
  induction members with
  | nil => exact ⟨[], rfl⟩
  | cons m rest ih =>
      obtain ⟨name, v⟩ := m
      obtain ⟨others, hothers⟩ := ih fun f hf w hw => h f hf w <| by
        simp only [given, List.mem_map, List.mem_filter] at hw ⊢
        obtain ⟨p, ⟨hp, hname⟩, rfl⟩ := hw
        exact ⟨p, ⟨List.mem_cons_of_mem _ hp, hname⟩, rfl⟩
      unfold membersOf
      split
      · exact ⟨others, hothers⟩
      · next f hf =>
        have hname : f.name = name := by simpa using List.find?_some hf
        obtain ⟨a, ha⟩ := h f (List.mem_of_find?_eq_some hf) v (by simp [given, hname])
        exact ⟨_, bind_eq_ok_iff.mpr ⟨a, ha, bind_eq_ok_iff.mpr ⟨others, hothers, rfl⟩⟩⟩

theorem complete_cons (seen : List (String × α)) (f : Field α) (rest : List (Field α)) :
    complete seen (f :: rest) =
      match (seen.lookup f.name).or f.absent with
      | some a => (complete seen rest).map (a :: ·)
      | none => .error (.missing f.name) := by
  conv_lhs => unfold complete
  cases seen.lookup f.name <;> cases f.absent <;> rfl

theorem complete_eq_ok_iff {seen : List (String × α)} {fields : List (Field α)} {values : List α} :
    complete seen fields = .ok values ↔
      List.Forall₂ (fun f a => (seen.lookup f.name).or f.absent = some a) fields values := by
  induction fields generalizing values with
  | nil =>
      rw [List.forall₂_nil_left_iff]
      exact ⟨fun h => (Except.ok.inj h).symm, fun h => h ▸ rfl⟩
  | cons f rest ih =>
      rw [complete_cons, List.forall₂_cons_left_iff]
      cases (seen.lookup f.name).or f.absent with
      | none => simp
      | some a =>
          dsimp only
          rw [map_eq_ok_iff]
          simp only [ih, Option.some.injEq]
          constructor
          · rintro ⟨others, hothers, rfl⟩
            exact ⟨a, others, rfl, hothers, rfl⟩
          · rintro ⟨_, others, rfl, hothers, rfl⟩
            exact ⟨others, hothers, rfl⟩

/-! ### Fields in a list -/

/-- An empty list gives nothing, so every field has to do without. -/
theorem takes_nil_iff {fields : List (Field α)} {values : List α} :
    List.Forall₂ (fun p a => p.1.Takes (given p.1.name p.2 (.array [])) a) fields.zipIdx values ↔
      fields.mapM (·.absent) = some values := by
  rw [mapM_eq_some_iff]
  conv_rhs => rw [← List.zipIdx_map_fst 0 fields, List.forall₂_map_left_iff]
  rfl

/-- Without its first element a list gives the others one place earlier. -/
theorem takes_shift_iff {fields : List (Field α)} {v : Json} {left : List Json}
    {values : List α} :
    List.Forall₂ (fun p a => p.1.Takes (given p.1.name p.2 (.array (v :: left))) a)
        (fields.zipIdx.map (Prod.map id (· + 1))) values ↔
      List.Forall₂ (fun p a => p.1.Takes (given p.1.name p.2 (.array left)) a) fields.zipIdx
        values := by
  rw [List.forall₂_map_left_iff]
  rfl

/-- Elements are taken for the fields at their places, and the rest is left over. -/
theorem listedOf_eq_ok_iff {fields : List (Field α)} {index : Nat} {items : List Json}
    {values : List α} {surplus : Nat} :
    r.listedOf fields index items = .ok (values, surplus) ↔
      surplus = items.length - fields.length ∧
        List.Forall₂ (fun p a => p.1.Takes (given p.1.name p.2 (.array items)) a) fields.zipIdx
          values := by
  induction fields generalizing index items values surplus with
  | nil =>
      rw [List.zipIdx_nil, List.forall₂_nil_left_iff]
      unfold listedOf
      rw [Except.ok.injEq, Prod.mk.injEq]
      exact ⟨fun h => ⟨h.2.symm, h.1.symm⟩, fun h => ⟨h.2.symm, h.1.symm⟩⟩
  | cons f rest ih =>
      cases items with
      | nil =>
          rw [takes_nil_iff]
          unfold listedOf
          cases (f :: rest).mapM (·.absent) <;> simp [and_comm, eq_comm]
      | cons v left =>
          rw [List.zipIdx_cons', List.forall₂_cons_left_iff]
          unfold listedOf
          rw [bind_eq_ok_iff]
          constructor
          · rintro ⟨a, ha, h⟩
            obtain ⟨⟨others, more⟩, hothers, h⟩ := bind_eq_ok_iff.mp h
            obtain ⟨rfl, rfl⟩ := Prod.mk.inj (Except.ok.inj h)
            obtain ⟨hmore, hothers⟩ := ih.mp hothers
            refine ⟨by simpa using hmore, a, others, ha, ?_, rfl⟩
            exact takes_shift_iff.mpr hothers
          · rintro ⟨hsurplus, a, others, ha, hothers, rfl⟩
            refine ⟨a, ha, bind_eq_ok_iff.mpr ⟨(others, surplus), ih.mpr ⟨?_, ?_⟩, rfl⟩⟩
            · simpa using hsurplus
            · exact takes_shift_iff.mp hothers

/-! ### The whole record -/

/-- A value in which a record may be given: an object, or a list that is not too long for it. -/
def Holds (r : Record α) : Json → Prop
  | .object _ => True
  | .array items => items.length ≤ r.fields.length
  | _ => False

/-- A field takes what is seen for it, whatever its place. -/
theorem complete_eq_ok_iff_takes (hnames : (r.fields.map (·.name)).Nodup)
    {members : List (String × Json)} {seen : List (String × α)} {values : List α}
    (hseen : r.membersOf members = .ok seen) :
    complete seen r.fields = .ok values ↔
      List.Forall₂ (fun p a => p.1.Takes (given p.1.name p.2 (.object members)) a) r.fields.zipIdx
        values := by
  rw [complete_eq_ok_iff]
  conv_lhs => rw [← List.zipIdx_map_fst 0 r.fields, List.forall₂_map_left_iff]
  refine forall₂_congr_of_mem fun p hp a => ?_
  have hfind := find?_of_nodup hnames (List.fst_mem_of_mem_zipIdx hp)
  exact (lookup_membersOf hseen hfind p.2).2 a

/-- **What a record is taken from.** -/
theorem ofJson_eq_ok_iff (hnames : (r.fields.map (·.name)).Nodup) {v : Json} {values : List α} :
    r.ofJson v = .ok values ↔
      r.Holds v ∧ (∀ p ∈ r.fields.zipIdx, ∀ w ∈ given p.1.name p.2 v, p.1.shape.Accepts w) ∧
        List.Forall₂ (fun p a => p.1.Takes (given p.1.name p.2 v) a) r.fields.zipIdx values := by
  cases v with
  | null | bool | number | string => exact ⟨nofun, fun h => h.1.elim⟩
  | object members =>
      have hfind : ∀ p ∈ r.fields.zipIdx, r.fields.find? (·.name = p.1.name) = some p.1 :=
        fun p hp => find?_of_nodup hnames (List.fst_mem_of_mem_zipIdx hp)
      refine bind_eq_ok_iff.trans ⟨?_, ?_⟩
      · rintro ⟨seen, hseen, h⟩
        exact ⟨trivial, fun p hp => (lookup_membersOf hseen (hfind p hp) p.2).1,
          (complete_eq_ok_iff_takes hnames hseen).mp h⟩
      · rintro ⟨-, haccepts, h⟩
        have haccepts' : ∀ f ∈ r.fields, ∀ w ∈ given f.name 0 (.object members),
            f.shape.Accepts w := by
          rw [← List.zipIdx_map_fst 0 r.fields]
          exact List.forall_mem_map.mpr haccepts
        obtain ⟨seen, hseen⟩ := exists_membersOf haccepts'
        exact ⟨seen, hseen, (complete_eq_ok_iff_takes hnames hseen).mpr h⟩
  | array items =>
      refine bind_eq_ok_iff.trans ⟨?_, ?_⟩
      · rintro ⟨⟨taken, surplus⟩, htaken, h⟩
        obtain ⟨hsurplus, h'⟩ := listedOf_eq_ok_iff.mp htaken
        dsimp only at h
        split at h
        · obtain rfl := Except.ok.inj h
          refine ⟨by unfold Holds; omega, fun p hp w hw => ?_, h'⟩
          obtain ⟨a, ha⟩ := exists_forall₂_iff.mp ⟨_, h'⟩ p hp
          rw [given, Option.mem_toList] at hw
          rw [given, hw] at ha
          exact ⟨a, ha⟩
        · contradiction
      · rintro ⟨hholds, -, h⟩
        exact ⟨(values, 0), listedOf_eq_ok_iff.mpr ⟨by unfold Holds at hholds; omega, h⟩, rfl⟩

/-- A record can be taken exactly from what gives each field that has to be there, and nothing of a
wrong shape. -/
theorem exists_ofJson_iff (hnames : (r.fields.map (·.name)).Nodup) {v : Json} :
    (∃ values, r.ofJson v = .ok values) ↔
      r.Holds v ∧ ∀ p ∈ r.fields.zipIdx, (∀ w ∈ given p.1.name p.2 v, p.1.shape.Accepts w) ∧
        (given p.1.name p.2 v = [] → ∃ a, p.1.absent = some a) := by
  have htakes : ∀ p : Field α × Nat, (∀ w ∈ given p.1.name p.2 v, p.1.shape.Accepts w) →
      ((∃ a, p.1.Takes (given p.1.name p.2 v) a) ↔
        (given p.1.name p.2 v = [] → ∃ a, p.1.absent = some a)) := by
    intro p haccepts
    unfold Field.Takes
    cases hgiven : given p.1.name p.2 v with
    | nil => simp
    | cons w rest =>
        have hw : p.1.shape.Accepts w := haccepts w (by simp [hgiven])
        simpa [Shape.Accepts] using hw
  simp only [ofJson_eq_ok_iff hnames, exists_and_left, exists_forall₂_iff]
  refine and_congr_right fun _ => ⟨fun h p hp => ?_, fun h => ?_⟩
  · exact ⟨h.1 p hp, (htakes p (h.1 p hp)).mp (h.2 p hp)⟩
  · exact ⟨fun p hp => (h p hp).1, fun p hp => (htakes p (h p hp).1).mpr (h p hp).2⟩

end Record

end Roster.Json
