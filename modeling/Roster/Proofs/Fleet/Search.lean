import Roster.Fleet.Search
import Roster.Proofs.Text.Ascii
import Roster.Proofs.Text.Separator
import Roster.Text.Blank
/-!
# The structure of the search filter

A term is put into the filter without quotes around it. It cannot be taken for a part of the filter
nonetheless: no separator begins in a clause, because of the two blanks of a clause neither stands
before the first letter of "or" and the term has none.
-/

namespace Roster.Search

/-- The characters that a term may have. -/
def alphabet : List Char :=
  "ABCDEFGHIJKLMNOPQRSTUVWXYZabcdefghijklmnopqrstuvwxyz0123456789-_%".toList

/-- Quotes, semicolons and white space. -/
def isStructural (c : Char) : Bool := c == '\'' || c == '"' || c == ';' || Text.isBlank c

/-! ### The characters of a term -/

theorem lt_of_allowed {c : Char} (h : allowed c) : c.toNat < 128 := by
  simp only [allowed, Bool.or_eq_true, beq_iff_eq] at h
  rcases h with ((halphanum | rfl) | rfl) | rfl
  · exact Text.lt_of_isAlphanum halphanum
  all_goals decide

theorem allowed_iff_mem_alphabet {c : Char} : allowed c ↔ c ∈ alphabet := by
  have hascii : ∀ n < 128, allowed (Char.ofNat n) ↔ Char.ofNat n ∈ alphabet := by
    decide +kernel
  by_cases hc : c.toNat < 128
  · simpa using hascii c.toNat hc
  · have hsmall : alphabet.all (·.toNat < 128) = true := by decide
    rw [List.all_eq_true] at hsmall
    refine iff_of_false (fun h => hc (lt_of_allowed h)) ?_
    intro hmem
    exact hc (of_decide_eq_true (hsmall c hmem))

theorem valid_iff {term : String} : valid term ↔ ∀ c ∈ term.toList, c ∈ alphabet := by
  simp only [valid, List.all_eq_true, allowed_iff_mem_alphabet]

theorem isStructural_of_mem_alphabet {c : Char} (h : c ∈ alphabet) : isStructural c = false := by
  have hall : alphabet.all (!isStructural ·) = true := by decide
  rw [List.all_eq_true] at hall
  simpa using hall c h

theorem blank_notMem_of_valid {term : String} (h : valid term) : ' ' ∉ term.toList := by
  intro hmem
  exact absurd (valid_iff.mp h ' ' hmem) (by decide)

/-! ### Clauses -/

theorem blank_notMem_field : ∀ field ∈ fields, ' ' ∉ field.toList := by decide

theorem startsNowhere_clause {term field : String} (hfield : ' ' ∉ field.toList)
    (hterm : ' ' ∉ term.toList) :
    Text.StartsNowhere " or ".toList (clause term field).toList := by
  have htext : (clause term field).toList =
      field.toList ++ [' ', 'l'] ++ "ike".toList ++ [' ', '%'] ++ term.toList ++ ['%'] := by
    simp [clause, String.toList_append]
  rw [htext]
  refine Text.StartsNowhere.append ?_ (Text.startsNowhere_of_notMem (by decide))
  refine Text.StartsNowhere.append ?_ (Text.startsNowhere_of_notMem hterm)
  refine Text.StartsNowhere.append ?_ (Text.startsNowhere_pair (by decide) (by decide))
  refine Text.StartsNowhere.append ?_ (Text.startsNowhere_of_notMem (by decide))
  refine Text.StartsNowhere.append ?_ (Text.startsNowhere_pair (by decide) (by decide))
  exact Text.startsNowhere_of_notMem hfield

theorem clause_injective {term other field : String} (h : clause term field = clause other field) :
    term = other := by
  unfold clause at h
  rw [String.append_left_inj, String.append_right_inj] at h
  exact h

/-! ### Filters -/

theorem query_eq_none_iff {term : String} : query term = none ↔ term = "" := by
  simp [query]

theorem query_of_ne_empty {term : String} (h : term ≠ "") :
    query term = some (" or ".intercalate (fields.map (clause term))) := by
  simp [query, h]

/-- The clauses of a filter are found again by its separators. -/
theorem splitOnText_filter {term : String} (hvalid : valid term) :
    (Text.splitOnText " or ".toList (" or ".intercalate (fields.map (clause term))).toList).map
      String.ofList = fields.map (clause term) := by
  rw [String.toList_intercalate, Text.splitOnText_intercalate (by decide) (by simp [fields])]
  · simp
  · intro part hpart
    obtain ⟨_, hclause, rfl⟩ := List.mem_map.mp hpart
    obtain ⟨field, hfield, rfl⟩ := List.mem_map.mp hclause
    exact startsNowhere_clause (blank_notMem_field field hfield) (blank_notMem_of_valid hvalid)

theorem filter_clause {term : String} (hvalid : valid term) (field : String) :
    (clause term field).toList.filter isStructural =
      (clause "" field).toList.filter isStructural := by
  have hterm : term.toList.filter isStructural = "".toList.filter isStructural := by
    refine List.filter_eq_nil_iff.mpr fun c hc => ?_
    simp [isStructural_of_mem_alphabet (valid_iff.mp hvalid c hc)]
  simp only [clause, String.toList_append, List.filter_append, hterm]

/-- **The structure of a filter.** An allowed term gives a filter unless it is empty. The separators
of the filter are those between its five clauses, which hold the term, so different terms have
different filters; and the quotes, semicolons and white space in it are those of the filter around
the empty text. -/
theorem clauses_of_query {term : String} (hvalid : valid term) :
    (query term = none ↔ term = "") ∧
      (∀ predicate, query term = some predicate →
        (Text.splitOnText " or ".toList predicate.toList).map String.ofList =
          ["name like %" ++ term ++ "%", "owner like %" ++ term ++ "%",
            "cloud_provider like %" ++ term ++ "%", "region like %" ++ term ++ "%",
            "status like %" ++ term ++ "%"] ∧
        predicate.toList.filter isStructural =
          (" or ".intercalate (fields.map (clause ""))).toList.filter isStructural) ∧
      (∀ c ∈ term.toList, isStructural c = false) ∧
      ∀ other, valid other → query other = query term → other = term := by
  refine ⟨query_eq_none_iff, ?_, ?_, ?_⟩
  · intro predicate hquery
    have hne : term ≠ "" := fun hempty => by simp [query_eq_none_iff.mpr hempty] at hquery
    rw [query_of_ne_empty hne, Option.some.injEq] at hquery
    subst hquery
    refine ⟨splitOnText_filter hvalid, ?_⟩
    rw [String.toList_intercalate, String.toList_intercalate, Text.filter_intercalate,
      Text.filter_intercalate, List.map_map, List.map_map, List.map_map, List.map_map]
    exact congrArg _ (List.map_congr_left fun field _ => filter_clause hvalid field)
  · intro c hc
    exact isStructural_of_mem_alphabet (valid_iff.mp hvalid c hc)
  · intro other hother hsame
    by_cases hempty : term = ""
    · rw [hempty, query_eq_none_iff.mpr rfl, query_eq_none_iff] at hsame
      rw [hempty, hsame]
    · have hne : other ≠ "" := by
        intro hnone
        rw [query_eq_none_iff.mpr hnone] at hsame
        exact hempty (query_eq_none_iff.mp hsame.symm)
      rw [query_of_ne_empty hempty, query_of_ne_empty hne, Option.some.injEq] at hsame
      have hclauses : fields.map (clause other) = fields.map (clause term) := by
        rw [← splitOnText_filter hvalid, ← splitOnText_filter hother, hsame]
      exact clause_injective (List.map_inj_left.mp hclauses "name" (by decide))

/-- A term that looks like a separator and has wildcards of its own. -/
theorem clauses_of_query_or :
    valid "%or_or%" ∧
      (query "%or_or%").map
        (fun predicate => (Text.splitOnText " or ".toList predicate.toList).map String.ofList) =
          some ["name like %%or_or%%", "owner like %%or_or%%", "cloud_provider like %%or_or%%",
            "region like %%or_or%%", "status like %%or_or%%"] := by
  have hvalid : valid "%or_or%" := by decide
  obtain ⟨hnone, hsome, -, -⟩ := clauses_of_query hvalid
  refine ⟨hvalid, ?_⟩
  cases hquery : query "%or_or%" with
  | none => exact absurd (hnone.mp hquery) (by decide)
  | some predicate => exact congrArg some (hsome predicate hquery).1

end Roster.Search
