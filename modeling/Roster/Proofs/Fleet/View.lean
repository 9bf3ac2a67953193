import Roster.Proofs.Fleet.Page
import Roster.Proofs.Json.Record
import Roster.Proofs.Json.Spelling
/-!
# Pages and the instances in them

Which documents are pages, and what the instances of a page have to do with its document. The id has
to be there and the cluster may be null; the other texts may be left out but not be null. What is said
here of a document holds of every value, also of one whose objects repeat names: all values for a name
have to be well-shaped, and the first of them counts. The documents that are read from text have each
name once, with what the text gives for it last.
-/

namespace Roster

open Json

/-! ### Texts and lists -/

namespace Json

/-- What a text comes to that is empty when it is not given. -/
def GivesText (values : List Json) (s : String) : Prop :=
  match values.head? with
  | some v => v = .string s
  | none => s = ""

/-- What a text comes to that may also be null. -/
def GivesNullable (values : List Json) (s : Option String) : Prop :=
  match values.head? with
  | some v => v = s.elim .null .string
  | none => s = none

theorem text_eq_ok_iff {v : Json} {s : String} : Shape.text.ofJson v = .ok s ↔ v = .string s := by
  cases v with
  | null | bool | number | array | object => exact ⟨nofun, nofun⟩
  | string t => exact ⟨fun h => congrArg Json.string (Except.ok.inj h), fun h => by cases h; rfl⟩

theorem given_text_eq_ok_iff {v : Json} {a : Option String} :
    (Shape.text.map some).ofJson v = .ok a ↔ ∃ s, v = .string s ∧ a = some s := by
  refine bind_eq_ok_iff.trans (exists_congr fun s => ?_)
  rw [text_eq_ok_iff, Except.ok.injEq, eq_comm (a := some s)]

theorem nullable_eq_ok_iff {v : Json} {a : Option String} :
    Shape.text.nullable.ofJson v = .ok a ↔ v = a.elim .null .string := by
  have hsome : (do Except.ok (some (← Shape.text.ofJson v))) = Except.ok a ↔
      ∃ s, v = .string s ∧ a = some s := given_text_eq_ok_iff
  cases v with
  | null => cases a <;> simp [Shape.nullable]
  | bool | number | string | array | object =>
      refine hsome.trans ?_
      cases a <;> simp [eq_comm]

theorem list_eq_ok_iff {α : Type} {s : Shape α} {v : Json} {xs : List α} :
    s.list.ofJson v = .ok xs ↔
      ∃ items, v = .array items ∧ List.Forall₂ (fun w x => s.ofJson w = .ok x) items xs := by
  cases v with
  | null | bool | number | string | object => exact ⟨nofun, nofun⟩
  | array items =>
      refine mapM_eq_ok_iff.trans ⟨fun h => ⟨items, rfl, h⟩, ?_⟩
      rintro ⟨_, heq, h⟩
      cases heq
      exact h

theorem exists_bind_ok_iff {ε α β : Type} {x : Except ε α} {f : α → β} :
    (∃ b, (x >>= fun a => Except.ok (f a)) = .ok b) ↔ ∃ a, x = .ok a := by
  constructor
  · rintro ⟨b, hb⟩
    obtain ⟨a, ha, -⟩ := bind_eq_ok_iff.mp hb
    exact ⟨a, ha⟩
  · rintro ⟨a, ha⟩
    exact ⟨f a, bind_eq_ok_iff.mpr ⟨a, ha, rfl⟩⟩

/-! ### Repeated names -/

theorem filter_eq_find?_toList {members : List (String × Json)}
    (h : (members.map Prod.fst).Nodup) (name : String) :
    (members.filter (·.1 = name)).map Prod.snd = (find? name members).toList := by
  induction members with
  | nil => rfl
  | cons m rest ih =>
      obtain ⟨n, v⟩ := m
      rw [List.map_cons, List.nodup_cons] at h
      by_cases hn : n = name
      · subst hn
        have hrest : rest.filter (·.1 = n) = [] := by
          rw [List.filter_eq_nil_iff]
          intro p hp heq
          exact h.1 (List.mem_map.mpr ⟨p, hp, of_decide_eq_true heq⟩)
        simp [find?, hrest]
      · simp [find?, hn, ih h.2]

theorem mergedItems_eq_map (items : List Json) : mergedItems items = items.map merged := by
  induction items with
  | nil => rfl
  | cons v rest ih => rw [mergedItems, ih, List.map_cons]

/-- Of what a text gives for a field, the last is kept. -/
theorem given_merged (v : Json) (name : String) (place : Nat) :
    given name place v.merged = ((given name place v).getLast?.map merged).toList := by
  cases v with
  | null | bool | number | string => rfl
  | array items =>
      rw [merged, mergedItems_eq_map, given, given, List.getElem?_map]
      cases items[place]? <;> rfl
  | object members =>
      have hlast : lastOf name members = (given name place (.object members)).getLast? := by
        rw [given, List.getLast?_map]
        rfl
      -- Once merged, an object gives a name at most once.
      have hnodup : (([] : List (String × Json)).map Prod.fst).Nodup := List.nodup_nil
      rw [merged, given, filter_eq_find?_toList (nodup_names_mergedMembers hnodup members),
        find?_mergedMembers, ← hlast]
      simp [find?]

end Json

/-! ### Instances -/

namespace Instance

/-- A text of an instance that may be left out: its name, its place, and what it says. -/
structure Part where
  name : String
  place : Nat
  text : Instance → String

def parts : List Part :=
  [⟨"name", 1, Instance.name⟩, ⟨"owner", 2, Instance.owner⟩, ⟨"status", 3, Instance.status⟩,
    ⟨"cloud_provider", 4, Instance.provider⟩, ⟨"region", 5, Instance.region⟩]

/-- A value that gives an instance: an object, or a list of its texts in order. -/
structure WellShaped (v : Json) : Prop where
  form : (∃ members, v = .object members) ∨ ∃ items, v = .array items ∧ items.length ≤ 7
  id_given : given "id" 0 v ≠ []
  id : ∀ w ∈ given "id" 0 v, ∃ s, w = .string s
  parts : ∀ p ∈ parts, ∀ w ∈ given p.name p.place v, ∃ s, w = .string s
  cluster : ∀ w ∈ given "cluster_id" 6 v, w = .null ∨ ∃ s, w = .string s

/-- An instance that says what is given for it, and what is due to what is not. -/
structure Views (v : Json) (i : Instance) : Prop where
  id : (given "id" 0 v).head? = some (.string i.id)
  parts : ∀ p ∈ parts, GivesText (given p.name p.place v) (p.text i)
  cluster : GivesNullable (given "cluster_id" 6 v) i.cluster

theorem id_takes_iff {values : List Json} {a : Option String} :
    Field.Takes ⟨"id", Shape.text.map some, none⟩ values a ↔
      ∃ s, values.head? = some (.string s) ∧ a = some s := by
  unfold Field.Takes
  cases values.head? with
  | none => simp
  | some w => simp [given_text_eq_ok_iff]

theorem plain_takes_iff {name : String} {values : List Json} {a : Option String} :
    (plain name).Takes values a ↔ ∃ s, GivesText values s ∧ a = some s := by
  unfold Field.Takes GivesText
  cases values.head? with
  | none => simp [plain, eq_comm]
  | some w => exact given_text_eq_ok_iff

theorem cluster_takes_iff {values : List Json} {a : Option String} :
    Field.Takes ⟨"cluster_id", Shape.text.nullable, some none⟩ values a ↔
      GivesNullable values a := by
  unfold Field.Takes GivesNullable
  cases values.head? with
  | none => simp [eq_comm]
  | some w => exact nullable_eq_ok_iff

/-- The values of the fields of an instance. -/
def values (i : Instance) : List (Option String) :=
  [some i.id, some i.name, some i.owner, some i.status, some i.provider, some i.region, i.cluster]

theorem ofFields_values (i : Instance) : ofFields i.values = i := rfl

theorem forall_mem_parts {P : Part → Prop} :
    (∀ p ∈ parts, P p) ↔ P ⟨"name", 1, Instance.name⟩ ∧ P ⟨"owner", 2, Instance.owner⟩ ∧
      P ⟨"status", 3, Instance.status⟩ ∧ P ⟨"cloud_provider", 4, Instance.provider⟩ ∧
      P ⟨"region", 5, Instance.region⟩ := by
  simp [parts]

theorem zipIdx_fields : record.fields.zipIdx =
    [(⟨"id", Shape.text.map some, none⟩, 0), (plain "name", 1), (plain "owner", 2),
      (plain "status", 3), (plain "cloud_provider", 4), (plain "region", 5),
      (⟨"cluster_id", Shape.text.nullable, some none⟩, 6)] := rfl

theorem takes_iff {v : Json} {found : List (Option String)} :
    List.Forall₂ (fun p a => p.1.Takes (given p.1.name p.2 v) a) record.fields.zipIdx found ↔
      ∃ i, Views v i ∧ found = values i := by
  rw [zipIdx_fields]
  constructor
  · intro h
    simp only [List.forall₂_cons_left_iff, List.forall₂_nil_left_iff] at h
    obtain ⟨_, _, tid, ⟨_, _, tname, ⟨_, _, towner, ⟨_, _, tstatus, ⟨_, _, tprovider,
      ⟨_, _, tregion, ⟨cluster, _, tcluster, rfl, rfl⟩, rfl⟩, rfl⟩, rfl⟩, rfl⟩, rfl⟩, rfl⟩ := h
    obtain ⟨id, hid, rfl⟩ := id_takes_iff.mp tid
    obtain ⟨name, hname, rfl⟩ := plain_takes_iff.mp tname
    obtain ⟨owner, howner, rfl⟩ := plain_takes_iff.mp towner
    obtain ⟨status, hstatus, rfl⟩ := plain_takes_iff.mp tstatus
    obtain ⟨provider, hprovider, rfl⟩ := plain_takes_iff.mp tprovider
    obtain ⟨region, hregion, rfl⟩ := plain_takes_iff.mp tregion
    refine ⟨⟨id, name, owner, status, provider, region, cluster⟩, ⟨hid, ?_, ?_⟩, rfl⟩
    · exact forall_mem_parts.mpr ⟨hname, howner, hstatus, hprovider, hregion⟩
    · exact cluster_takes_iff.mp tcluster
  · rintro ⟨i, hviews, rfl⟩
    obtain ⟨hname, howner, hstatus, hprovider, hregion⟩ := forall_mem_parts.mp hviews.parts
    refine .cons (id_takes_iff.mpr ⟨_, hviews.id, rfl⟩) ?_
    refine .cons (plain_takes_iff.mpr ⟨_, hname, rfl⟩) ?_
    refine .cons (plain_takes_iff.mpr ⟨_, howner, rfl⟩) ?_
    refine .cons (plain_takes_iff.mpr ⟨_, hstatus, rfl⟩) ?_
    refine .cons (plain_takes_iff.mpr ⟨_, hprovider, rfl⟩) ?_
    refine .cons (plain_takes_iff.mpr ⟨_, hregion, rfl⟩) ?_
    exact .cons (cluster_takes_iff.mpr hviews.cluster) .nil

theorem nodup_names : (record.fields.map (·.name)).Nodup := by decide

theorem given_text_accepts_iff {v : Json} :
    (Shape.text.map some).Accepts v ↔ ∃ s, v = .string s := by
  simp [Shape.Accepts, given_text_eq_ok_iff]

theorem nullable_accepts_iff {v : Json} :
    Shape.text.nullable.Accepts v ↔ v = .null ∨ ∃ s, v = .string s := by
  simp [Shape.Accepts, nullable_eq_ok_iff, Option.exists]

/-- What gives an instance is well-shaped, and the other way round. -/
theorem exists_ofJson_iff {v : Json} : (∃ i, shape.ofJson v = .ok i) ↔ WellShaped v := by
  have hform : record.Holds v ↔
      (∃ members, v = .object members) ∨ ∃ items, v = .array items ∧ items.length ≤ 7 := by
    cases v <;> simp [Record.Holds, record]
  rw [show (∃ i, shape.ofJson v = .ok i) ↔ ∃ found, record.ofJson v = .ok found from
    exists_bind_ok_iff, Record.exists_ofJson_iff nodup_names, hform, zipIdx_fields]
  constructor
  · rintro ⟨hform, h⟩
    have hmem : ∀ p ∈ parts, (plain p.name, p.place) ∈ record.fields.zipIdx :=
      forall_mem_parts.mpr (by simp [zipIdx_fields])
    rw [zipIdx_fields] at hmem
    refine ⟨hform, fun hid => ?_, fun w hw => ?_, fun p hp w hw => ?_, fun w hw => ?_⟩
    · obtain ⟨a, ha⟩ := (h _ List.mem_cons_self).2 hid
      contradiction
    · exact given_text_accepts_iff.mp ((h _ List.mem_cons_self).1 w hw)
    · exact given_text_accepts_iff.mp ((h _ (hmem p hp)).1 w hw)
    · exact nullable_accepts_iff.mp
        ((h (⟨"cluster_id", Shape.text.nullable, some none⟩, 6) (by simp)).1 w hw)
  · intro h
    have hplain : ∀ p ∈ parts,
        (∀ w ∈ given p.name p.place v, (plain p.name).shape.Accepts w) ∧
          (given p.name p.place v = [] → ∃ a, (plain p.name).absent = some a) := fun p hp =>
      ⟨fun w hw => given_text_accepts_iff.mpr (h.parts p hp w hw), fun _ => ⟨_, rfl⟩⟩
    obtain ⟨hname, howner, hstatus, hprovider, hregion⟩ := forall_mem_parts.mp hplain
    refine ⟨h.form, List.forall_mem_cons.mpr ⟨⟨fun w hw => ?_, fun hid => ?_⟩, ?_⟩⟩
    · exact given_text_accepts_iff.mpr (h.id w hw)
    · exact absurd hid h.id_given
    · simp only [List.forall_mem_cons, List.not_mem_nil, IsEmpty.forall_iff, implies_true, and_true]
      refine ⟨hname, howner, hstatus, hprovider, hregion, fun w hw => ?_, fun _ => ⟨none, rfl⟩⟩
      exact nullable_accepts_iff.mpr (h.cluster w hw)

/-- The instance that is given says what is given for it. -/
theorem views_of_ofJson {v : Json} {i : Instance} (h : shape.ofJson v = .ok i) : Views v i := by
  obtain ⟨found, hfound, heq⟩ := bind_eq_ok_iff.mp h
  obtain ⟨i', hviews, rfl⟩ := takes_iff.mp ((Record.ofJson_eq_ok_iff nodup_names).mp hfound).2.2
  rwa [← Except.ok.inj heq, ofFields_values]

end Instance

/-! ### Pages -/

namespace Page

/-- A value that gives the instances of a page. -/
def Items (v : Json) : Prop := ∃ items, v = .array items ∧ ∀ w ∈ items, Instance.WellShaped w

/-- A document that is a page: an object, or a list that holds nothing but the instances. -/
structure WellShaped (document : Json) : Prop where
  form : (∃ members, document = .object members) ∨
    ∃ items, document = .array items ∧ items.length ≤ 1
  items : ∀ v ∈ given "items" 0 document, Items v

/-- The values of a document that give an instance each. -/
def itemsOf (document : Json) : List Json :=
  match (given "items" 0 document).head? with
  | some (.array items) => items
  | _ => []

theorem nodup_names : (record.fields.map (·.name)).Nodup := by decide

theorem zipIdx_fields :
    record.fields.zipIdx = [(⟨"items", Shape.list Instance.shape, some []⟩, 0)] := rfl

theorem list_accepts_iff {v : Json} : (Shape.list Instance.shape).Accepts v ↔ Items v := by
  unfold Shape.Accepts Items
  simp only [list_eq_ok_iff, ← Instance.exists_ofJson_iff, ← exists_forall₂_iff]
  exact ⟨fun ⟨xs, items, heq, h⟩ => ⟨items, heq, xs, h⟩, fun ⟨items, heq, xs, h⟩ => ⟨xs, items, heq, h⟩⟩

/-- A document is a page if it is well-shaped, and only then. -/
theorem exists_ofJson_iff {document : Json} :
    (∃ page, ofJson document = .ok page) ↔ WellShaped document := by
  have hform : record.Holds document ↔ (∃ members, document = .object members) ∨
      ∃ items, document = .array items ∧ items.length ≤ 1 := by
    cases document <;> simp [Record.Holds, record]
  rw [show (∃ page, ofJson document = .ok page) ↔ ∃ found, record.ofJson document = .ok found from
    exists_bind_ok_iff, Record.exists_ofJson_iff nodup_names, hform, zipIdx_fields]
  simp only [List.forall_mem_singleton, list_accepts_iff]
  exact ⟨fun h => ⟨h.1, h.2.1⟩, fun h => ⟨h.form, h.items, fun _ => ⟨[], rfl⟩⟩⟩

/-- The instances of a page say what the values of its document give, one each and in order. -/
theorem views_of_ofJson {document : Json} {page : Page} (h : ofJson document = .ok page) :
    List.Forall₂ Instance.Views (itemsOf document) page.items := by
  obtain ⟨found, hfound, heq⟩ := bind_eq_ok_iff.mp h
  have htakes := ((Record.ofJson_eq_ok_iff nodup_names).mp hfound).2.2
  rw [zipIdx_fields] at htakes
  obtain ⟨items, hitems, rfl⟩ : ∃ items,
      Field.Takes ⟨"items", Shape.list Instance.shape, some []⟩ (given "items" 0 document) items ∧
        found = [items] := by
    simpa [List.forall₂_cons_left_iff] using htakes
  rw [← Except.ok.inj heq, List.flatten_singleton]
  unfold itemsOf
  unfold Field.Takes at hitems
  cases hgiven : (given "items" 0 document).head? with
  | none =>
      rw [hgiven] at hitems
      rw [← Option.some.inj hitems]
      exact .nil
  | some v =>
      rw [hgiven] at hitems
      obtain ⟨values, rfl, hvalues⟩ := list_eq_ok_iff.mp hitems
      exact hvalues.imp fun _ _ => Instance.views_of_ofJson

/-- **Pages agree with their documents.** A document is a page exactly if it is well-shaped, and the
page keeps it and has one instance for each value that gives one, in order, which says what is given
there. Of a text that repeats names, the document has for each name what is given last, at every
depth, so that is also what the instances say. -/
theorem agrees_with_document :
    (∀ document, ((∃ page, ofJson document = .ok page) ↔ WellShaped document) ∧
      ∀ page, ofJson document = .ok page → page.document = document ∧
        List.Forall₂ Instance.Views (itemsOf document) page.items) ∧
    (∀ text page, ofBytes text = .ok page →
      ∃ spelt rest, Spells text spelt rest ∧ endDocument rest = .ok () ∧
        page.document = spelt.merged ∧
        List.Forall₂ Instance.Views (itemsOf spelt.merged) page.items) ∧
    ∀ spelt name place,
      given name place (merged spelt) = ((given name place spelt).getLast?.map merged).toList := by
  refine ⟨fun document => ⟨exists_ofJson_iff, fun page h => ?_⟩, fun text page h => ?_, ?_⟩
  · exact ⟨document_of_ofJson h, views_of_ofJson h⟩
  · obtain ⟨hdocument, hpage⟩ := ofBytes_eq_ok_iff.mp h
    obtain ⟨spelt, rest, hspelt, hend, hmerged⟩ := exists_spelt_of_ofBytes hdocument
    exact ⟨spelt, rest, hspelt, hend, hmerged, hmerged ▸ views_of_ofJson hpage⟩
  · exact given_merged

end Page

end Roster
