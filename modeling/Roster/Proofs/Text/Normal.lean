import Std.Data.HashMap.Lemmas
import Roster.Proofs.Text.Ascii
import Roster.Text.Normal
/-!
# What composed text has no more of

Most characters of ASCII are parts of other characters, and some are not: no character is taken apart
into one of them, and none is composed of others. Composing a text gives no more of these than it has.
-/

namespace Roster.Text

theorem eq_toNat_of_ofNat_eq {n : Nat} {c : Char} (h : Char.ofNat n = c) (hc : c.toNat ≠ 0) :
    n = c.toNat := by
  subst h
  by_cases hvalid : n.isValidChar
  · rw [Char.ofNat, dif_pos hvalid]
    rfl
  · rw [Char.ofNat, dif_neg hvalid] at hc
    exact absurd rfl hc

namespace CodeTable

variable {t : CodeTable} {e : CodeEntry}

theorem mem_of_search {n fuel low high : Nat} (h : t.search n fuel low high = some e) : e ∈ t := by
  induction fuel generalizing low high with
  | zero => contradiction
  | succ fuel ih =>
      unfold search at h
      split at h
      · dsimp only at h
        split at h
        · next found hfound =>
          split at h
          · exact ih h
          · split at h
            · exact ih h
            · rw [← Option.some.inj h]
              exact Array.mem_of_getElem? hfound
        · contradiction
      · contradiction

theorem mem_of_find? {c : Char} (h : t.find? c = some e) : e ∈ t := mem_of_search h

/-- What is checked of the words of a table holds of its entries. -/
theorem forall_mem_ofText {text : String} {chars : List Char} (htext : text = String.ofList chars)
    {q : CodeEntry → Bool}
    (h : ((splitOn ' ' (chars.map fun c => if isSpace c then ' ' else c)).filter (!·.isEmpty)).all
      (q ∘ readEntry)) : ∀ e ∈ ofText text, q e := by
  intro e he
  rw [ofText, List.mem_toArray, List.mem_map] at he
  obtain ⟨word, hword, rfl⟩ := he
  rw [words, htext, String.toList_ofList] at hword
  exact List.all_eq_true.mp h word hword

end CodeTable

namespace Normal

/-! ### Characters that are no parts -/

/-- A character that nothing is taken apart into and that nothing is composed to. -/
structure Inert (c : Char) : Prop where
  ne_zero : c.toNat ≠ 0
  lt_leads : c.toNat < leads
  composites : ∀ e ∈ composites, c.toNat ∉ e.values ∧ c.toNat ≠ e.first
  singletons : ∀ e ∈ singletons, c.toNat ∉ e.values

section

variable {c : Char} (hc : Inert c)

include hc

theorem Inert.eq_of_ofNat {n : Nat} (h : c = Char.ofNat n) : n = c.toNat :=
  eq_toNat_of_ofNat_eq h.symm hc.ne_zero

theorem Inert.ne_ofNat {n : Nat} (hn : leads ≤ n) : c ≠ Char.ofNat n := by
  intro h
  have hlt := hc.lt_leads
  rw [← hc.eq_of_ofNat h] at hlt
  omega

theorem Inert.notMem_splitSyllable (d : Char) : c ∉ splitSyllable d := by
  have hlead := hc.ne_ofNat (Nat.le_add_right leads ((d.toNat - syllables) / 588))
  have hvowel : c ≠ Char.ofNat (vowels + (d.toNat - syllables) % 588 / 28) :=
    hc.ne_ofNat (by unfold leads vowels; omega)
  have htrail : c ≠ Char.ofNat (trails + (d.toNat - syllables) % 28) :=
    hc.ne_ofNat (by unfold leads trails; omega)
  unfold splitSyllable
  dsimp only
  split <;> simp only [List.cons_append, List.nil_append, List.mem_cons, List.not_mem_nil, hlead,
    hvowel, htrail, or_self, not_false_eq_true]

theorem Inert.notMem_values {d : Char} {e : CodeEntry} (h : parts? d = some e) :
    c.toNat ∉ e.values := by
  unfold parts? at h
  cases hcomposite : Normal.composites.find? d with
  | some found =>
      rw [hcomposite] at h
      rw [← Option.some.inj h]
      exact (hc.composites found (CodeTable.mem_of_find? hcomposite)).1
  | none =>
      rw [hcomposite, Option.orElse_none] at h
      exact hc.singletons e (CodeTable.mem_of_find? h)

/-- Whatever is said of the parts of characters, an inert character comes of itself alone. -/
theorem Inert.eq_of_mem_expand {parts? : Char → Option CodeEntry}
    (hparts : ∀ d e, parts? d = some e → c.toNat ∉ e.values) {fuel : Nat} {d : Char}
    (h : c ∈ expand parts? fuel d) : c = d := by
  induction fuel generalizing d with
  | zero => exact List.mem_singleton.mp h
  | succ fuel ih =>
      unfold expand at h
      split at h
      · exact absurd h (hc.notMem_splitSyllable d)
      · split at h
        · next e he =>
          obtain ⟨n, hn, hmem⟩ := List.mem_flatMap.mp h
          rw [hc.eq_of_ofNat (ih hmem)] at hn
          exact absurd hn (hparts d e he)
        · exact List.mem_singleton.mp h

omit hc in
theorem mem_place {d : Char} {before : List Char} : c ∈ place d before ↔ c = d ∨ c ∈ before := by
  induction before with
  | nil => simp [place]
  | cons b before ih =>
      unfold place
      split
      · rw [List.mem_cons, ih, List.mem_cons]
        exact or_left_comm
      · rw [List.mem_cons]

theorem Inert.mem_of_mem_decomposed {s : List Char} (h : c ∈ decomposed s) : c ∈ s := by
  have hplaced : ∀ (t before : List Char),
      c ∈ t.foldl (fun before d => place d before) before → c ∈ t ∨ c ∈ before := by
    intro t
    induction t with
    | nil => exact fun before h => .inr h
    | cons d t ih =>
        intro before h
        rcases ih _ h with h | h
        · exact .inl (List.mem_cons_of_mem d h)
        · rcases mem_place.mp h with rfl | h
          · exact .inl List.mem_cons_self
          · exact .inr h
  rcases hplaced _ _ (List.mem_reverse.mp h) with h | h
  · obtain ⟨d, hd, hmem⟩ := List.mem_flatMap.mp h
    rwa [hc.eq_of_mem_expand (fun _ _ => hc.notMem_values) hmem]
  · contradiction

/-! ### Composing -/

omit hc in
theorem exists_of_foldl {pair : Nat × Nat} {d : Char}
    {f : Std.HashMap (Nat × Nat) Char → CodeEntry → Std.HashMap (Nat × Nat) Char}
    (hf : ∀ m e, (f m e)[pair]? = some d → d = Char.ofNat e.first ∨ m[pair]? = some d)
    {entries : List CodeEntry} {m : Std.HashMap (Nat × Nat) Char}
    (h : (entries.foldl f m)[pair]? = some d) :
    (∃ e ∈ entries, d = Char.ofNat e.first) ∨ m[pair]? = some d := by
  induction entries generalizing m with
  | nil => exact .inr h
  | cons e entries ih =>
      rcases ih h with ⟨found, hfound, hd⟩ | h
      · exact .inl ⟨found, List.mem_cons_of_mem e hfound, hd⟩
      · rcases hf m e h with hd | h
        · exact .inl ⟨e, List.mem_cons_self, hd⟩
        · exact .inr h

omit hc in
theorem exists_of_compositions {pair : Nat × Nat} {d : Char} (h : compositions[pair]? = some d) :
    ∃ e ∈ Normal.composites, d = Char.ofNat e.first := by
  unfold compositions at h
  rw [← Array.foldl_toList] at h
  refine (exists_of_foldl (fun m e hstep => ?_) h).elim ?_ ?_
  · split at hstep
    · rw [Std.HashMap.getElem?_insert] at hstep
      split at hstep
      · exact .inl (Option.some.inj hstep).symm
      · exact .inr hstep
    · exact .inr hstep
  · rintro ⟨e, he, hd⟩
    exact ⟨e, Array.mem_toList_iff.mp he, hd⟩
  · intro hnone
    simp at hnone

theorem Inert.ne_of_compose? {a b d : Char} (h : compose? a b = some d) : c ≠ d := by
  unfold compose? at h
  cases hsyllable : joinSyllable? a b with
  | some found =>
      rw [hsyllable] at h
      rw [← Option.some.inj h]
      unfold joinSyllable? at hsyllable
      dsimp only at hsyllable
      split at hsyllable
      · rw [← Option.some.inj hsyllable]
        exact hc.ne_ofNat (by unfold leads syllables; omega)
      · split at hsyllable
        · next hlarge =>
          rw [← Option.some.inj hsyllable]
          have hfirst := hlarge.1
          unfold syllables at hfirst
          exact hc.ne_ofNat (by unfold leads; omega)
        · contradiction
  | none =>
      rw [hsyllable, Option.orElse_none] at h
      obtain ⟨e, he, rfl⟩ := exists_of_compositions h
      intro heq
      exact (hc.composites e he).2 (hc.eq_of_ofNat heq).symm

theorem Inert.mem_of_mem_recompose {start : Option Char} {marks s : List Char}
    (h : c ∈ recompose start marks s) : c ∈ start ∨ c ∈ marks ∨ c ∈ s := by
  induction s generalizing start marks with
  | nil =>
      unfold recompose at h
      simpa using h
  | cons d s ih =>
      unfold recompose at h
      extract_lets free at h
      clear_value free
      split at h
      · next composed hcomposed =>
        obtain ⟨a, -, hpair⟩ := Option.bind_eq_some_iff.mp hcomposed
        split at hpair
        · rcases ih h with h | h | h
          · -- The new start was composed, so it is not the inert character.
            exact absurd (Option.some.inj h).symm (hc.ne_of_compose? hpair)
          · exact .inr (.inl h)
          · exact .inr (.inr (List.mem_cons_of_mem d h))
        · contradiction
      · split at h
        · rcases List.mem_append.mp h with h | h
          · rcases List.mem_append.mp h with h | h
            · exact .inl (Option.mem_toList.mp h)
            · exact .inr (.inl (List.mem_reverse.mp h))
          · rcases ih h with h | h | h
            · obtain rfl := Option.some.inj h
              exact .inr (.inr List.mem_cons_self)
            · exact absurd h List.not_mem_nil
            · exact .inr (.inr (List.mem_cons_of_mem d h))
        · rcases ih h with h | h | h
          · exact .inl h
          · rcases List.mem_cons.mp h with rfl | h
            · exact .inr (.inr List.mem_cons_self)
            · exact .inr (.inl h)
          · exact .inr (.inr (List.mem_cons_of_mem d h))

/-- Composing a text gives no more of an inert character than the text has. -/
theorem Inert.mem_of_mem_compose {s : List Char} (h : c ∈ compose s) : c ∈ s := by
  rcases hc.mem_of_mem_recompose h with h | h | h
  · contradiction
  · contradiction
  · exact hc.mem_of_mem_decomposed h

end

/-! ### Delimiters -/

/-- Punctuation that texts are divided by. -/
def delimiters : List Char := ['?', '#', '/', '\\', ':', '@', '[', ']']

/-- An entry that speaks of no delimiters. -/
def sparesDelimiters (e : CodeEntry) : Bool :=
  delimiters.all fun c => c.toNat != e.first && !e.values.contains c.toNat

-- The tables are read character by character here, each of them once.
set_option maxRecDepth 100000 in
theorem exists_chars_compositeTable : ∃ chars, compositeTable = String.ofList chars ∧
    ((splitOn ' ' (chars.map fun c => if CodeTable.isSpace c then ' ' else c)).filter
      (!·.isEmpty)).all (sparesDelimiters ∘ CodeTable.readEntry) = true :=
  ⟨_, rfl, by decide +kernel⟩

set_option maxRecDepth 100000 in
theorem exists_chars_singletonTable : ∃ chars, singletonTable = String.ofList chars ∧
    ((splitOn ' ' (chars.map fun c => if CodeTable.isSpace c then ' ' else c)).filter
      (!·.isEmpty)).all (sparesDelimiters ∘ CodeTable.readEntry) = true :=
  ⟨_, rfl, by decide +kernel⟩

theorem inert_of_delimiter {c : Char} (hc : c ∈ delimiters) : Inert c := by
  have hspared : ∀ e, sparesDelimiters e → c.toNat ∉ e.values ∧ c.toNat ≠ e.first := by
    intro e he
    have hboth := List.all_eq_true.mp he c hc
    simpa [and_comm] using hboth
  obtain ⟨_, htext, hall⟩ := exists_chars_compositeTable
  have hcomposites := CodeTable.forall_mem_ofText htext hall
  obtain ⟨_, htext, hall⟩ := exists_chars_singletonTable
  have hsingletons := CodeTable.forall_mem_ofText htext hall
  have hsmall : ∀ d ∈ delimiters, d.toNat ≠ 0 ∧ d.toNat < leads :=
    forall_mem_of_all (by decide)
  exact ⟨(hsmall c hc).1, (hsmall c hc).2, fun e he => hspared e (hcomposites e he),
    fun e he => (hspared e (hsingletons e he)).1⟩

end Normal

end Roster.Text
