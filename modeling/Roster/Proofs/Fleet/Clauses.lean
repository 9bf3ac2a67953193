import Roster.Proofs.Fleet.Lookup
import Roster.Proofs.Text.Split
/-!
# What a lookup names

A lookup puts each id between single quotes as it is. The ids are found again between the quotes as
long as none of them has a quote itself. An id with a quote can be taken for the end of a clause and
the beginning of another one, and then two sets of ids have one lookup.
-/

namespace Roster.Lookup

/-- The parts that stand between an odd and an even separator. -/
def oddParts : List (List Char) → List (List Char)
  | _ :: part :: rest => part :: oddParts rest
  | _ => []

/-- The texts between the quotes of a filter. -/
def named (text : List Char) : List String := (oddParts (Text.splitOn '\'' text)).map String.ofList

/-- The clause of an id behind another one. -/
def nextClause (id : String) : List Char := (" or " ++ clause id).toList

theorem nextClause_append (id : String) (rest : List Char) :
    nextClause id ++ rest = " or id = ".toList ++ '\'' :: (id.toList ++ '\'' :: rest) := by
  simp [nextClause, clause]

theorem toList_filter_cons (id : String) (ids : List String) :
    (filter (id :: ids)).toList =
      "id = ".toList ++ '\'' :: (id.toList ++ '\'' :: ids.flatMap nextClause) := by
  unfold filter
  induction ids generalizing id with
  | nil => simp [clause]
  | cons next rest ih =>
      rw [List.map_cons, List.map_cons, String.intercalate_cons_cons, String.toList_append,
        String.toList_append, ← List.map_cons, ih, List.flatMap_cons, nextClause_append]
      simp [clause]

/-! ### Ids without quotes -/

theorem named_append {front : List Char} {id : String} (hfront : '\'' ∉ front)
    (hid : '\'' ∉ id.toList) (rest : List Char) :
    named (front ++ '\'' :: (id.toList ++ '\'' :: rest)) = id :: named rest := by
  unfold named
  rw [Text.splitOn_append_of_notMem hfront, Text.splitOn_append_of_notMem hid]
  simp [oddParts]

theorem named_flatMap_nextClause {ids : List String} (h : ∀ id ∈ ids, '\'' ∉ id.toList) :
    named (ids.flatMap nextClause) = ids := by
  induction ids with
  | nil => rfl
  | cons id rest ih =>
      obtain ⟨hid, hrest⟩ := List.forall_mem_cons.mp h
      rw [List.flatMap_cons, nextClause_append, named_append (by decide) hid, ih hrest]

theorem named_filter {ids : List String} (h : ∀ id ∈ ids, '\'' ∉ id.toList) :
    named (filter ids).toList = ids := by
  cases ids with
  | nil => rfl
  | cons id rest =>
      obtain ⟨hid, hrest⟩ := List.forall_mem_cons.mp h
      rw [toList_filter_cons, named_append (by decide) hid, named_flatMap_nextClause hrest]

/-! ### Counting quotes -/

theorem count_flatMap_nextClause (ids : List String) :
    (ids.flatMap nextClause).count '\'' =
      2 * ids.length + (ids.flatMap String.toList).count '\'' := by
  induction ids with
  | nil => rfl
  | cons id rest ih =>
      have hfront : " or id = ".toList.count '\'' = 0 := by decide
      rw [List.flatMap_cons, List.flatMap_cons, nextClause_append]
      simp only [List.count_append, List.count_cons_self, hfront, ih, List.length_cons]
      omega

/-- Two quotes stand around each id, and there are those that the ids have. -/
theorem count_filter (ids : List String) :
    (filter ids).toList.count '\'' = 2 * ids.length + (ids.flatMap String.toList).count '\'' := by
  cases ids with
  | nil => rfl
  | cons id rest =>
      have hfront : "id = ".toList.count '\'' = 0 := by decide
      rw [toList_filter_cons, List.flatMap_cons]
      simp only [List.count_append, List.count_cons_self, hfront, count_flatMap_nextClause,
        List.length_cons]
      omega

theorem count_flatMap_eq_zero_iff {ids : List String} :
    (ids.flatMap String.toList).count '\'' = 0 ↔ ∀ id ∈ ids, '\'' ∉ id.toList := by
  simp only [List.count_eq_zero, List.mem_flatMap, not_exists, not_and]

/-- As many ids with the filter of ids without quotes have no quotes either. -/
theorem quotes_notMem_of_filter_eq {ids other : List String} (hlength : other.length = ids.length)
    (hfilter : filter other = filter ids) (h : ∀ id ∈ ids, '\'' ∉ id.toList) :
    ∀ id ∈ other, '\'' ∉ id.toList := by
  have hcount := count_filter other
  have hnone := count_flatMap_eq_zero_iff.mpr h
  rw [hfilter, count_filter, hlength, hnone] at hcount
  apply count_flatMap_eq_zero_iff.mp
  omega

/-! ### Lookups -/

/-- No cluster that some instances run on has a quote in its id. -/
def Unquoted (items : List Instance) : Prop :=
  ∀ i ∈ items, ∀ id, i.cluster = some id → '\'' ∉ id.toList

theorem unquoted_iff {items : List Instance} :
    Unquoted items ↔ ∀ id ∈ ids items, '\'' ∉ id.toList := by
  constructor
  · intro h id hid
    obtain ⟨i, hi, hcluster⟩ := mem_ids.mp hid
    exact h i hi id hcluster
  · intro h i hi id hcluster
    exact h id (mem_ids.mpr ⟨i, hi, hcluster⟩)

theorem ids_eq_of_params?_eq {items other : List Instance} (h : Unquoted items)
    (hother : Unquoted other ∨ (ids items).length < 4294967295)
    (hsame : params? other = params? items) : ids other = ids items := by
  by_cases hitems : ids items = []
  · by_contra hne
    rw [hitems] at hne
    rw [params?_eq_of_ne_nil hne] at hsame
    simp [params?, hitems] at hsame
  · have hnil : ids other ≠ [] := by
      intro hnil
      rw [params?_eq_of_ne_nil hitems] at hsame
      simp [params?, hnil] at hsame
    rw [params?_eq_of_ne_nil hitems, params?_eq_of_ne_nil hnil] at hsame
    simp only [Option.some.injEq, ListParams.mk.injEq, true_and] at hsame
    obtain ⟨hsize, hfilter⟩ := hsame
    have hquotes := unquoted_iff.mp h
    have hquotes' : ∀ id ∈ ids other, '\'' ∉ id.toList := by
      rcases hother with hother | hsmall
      · exact unquoted_iff.mp hother
      · have hlength : (ids other).length = (ids items).length := by omega
        exact quotes_notMem_of_filter_eq hlength hfilter hquotes
    rw [← named_filter hquotes, ← named_filter hquotes', hfilter]

/-- **What a lookup names.** Without quotes in the ids of their clusters, instances are looked up like
others exactly when those run on the same clusters. This is so whatever ids the others have, unless
there are more clusters than the size of a page can say. -/
theorem lookup_names_clusters {items other : List Instance} (h : Unquoted items)
    (hother : Unquoted other ∨ (ids items).length < 4294967295) :
    params? other = params? items ↔ SameClusters other items := by
  constructor
  · intro hsame
    exact ids_eq_iff.mp (ids_eq_of_params?_eq h hother hsame)
  · intro hsame
    exact hsame.params?_eq

/-- Nameless instances on some clusters. -/
def running (ids : List String) : List Instance :=
  ids.map fun id => ⟨"", "", "", "", "", "", some id⟩

theorem lookup_names_clusters_pair :
    Unquoted (running ["b", "a", "b"]) ∧ (ids (running ["b", "a", "b"])).length < 4294967295 ∧
      (params? (running ["a' or id = 'b", "b"]) = params? (running ["b", "a", "b"]) ↔
        SameClusters (running ["a' or id = 'b", "b"]) (running ["b", "a", "b"])) := by
  have hquotes : Unquoted (running ["b", "a", "b"]) := unquoted_iff.mpr (by decide)
  have hlength : (ids (running ["b", "a", "b"])).length < 4294967295 := by decide
  exact ⟨hquotes, hlength, lookup_names_clusters hquotes (.inr hlength)⟩

/-- Two clusters each, and not the same ones, but one lookup. -/
theorem lookup_confuses_quotes :
    params? (running ["a", "b' or id = 'c"]) = params? (running ["a' or id = 'b", "c"]) ∧
      params? (running ["a", "b' or id = 'c"]) =
        some ⟨1, 2, some "id = 'a' or id = 'b' or id = 'c'"⟩ ∧
      ¬SameClusters (running ["a", "b' or id = 'c"]) (running ["a' or id = 'b", "c"]) := by
  refine ⟨by decide, by decide, ?_⟩
  intro hsame
  have hids := ids_eq_iff.mpr hsame
  revert hids
  decide

end Roster.Lookup
