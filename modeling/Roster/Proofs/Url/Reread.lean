import Roster.Proofs.Url.Segments
/-!
# Addresses are read again

A text that is written from an address of the web is read as that address: nothing in it is left out,
its scheme is in lower case, the first slash behind its authority begins its path, and its first mark
is the one that its query begins with. Only its host is read again from what is written of it.
-/

namespace Roster.Url

/-! ### Schemes -/

/-- A scheme as it is written in an address. -/
structure IsScheme (scheme : List Char) : Prop where
  head : ∃ c rest, scheme = c :: rest ∧ c.isAlpha
  chars : ∀ c ∈ scheme, isSchemeChar c
  lower : scheme.map Char.toLower = scheme

theorem lt_of_isSchemeChar {c : Char} (h : isSchemeChar c) : c.toNat < 128 := by
  simp only [isSchemeChar, Bool.or_eq_true, beq_iff_eq] at h
  rcases h with ((halphanum | rfl) | rfl) | rfl
  · exact Text.lt_of_isAlphanum halphanum
  all_goals decide

theorem toLower_of_isSchemeChar {c : Char} (h : isSchemeChar c) :
    isSchemeChar c.toLower ∧ c.toLower.toLower = c.toLower ∧ (c.isAlpha → c.toLower.isAlpha) := by
  have hall : ∀ n < 128, isSchemeChar (Char.ofNat n) →
      isSchemeChar (Char.ofNat n).toLower ∧
        (Char.ofNat n).toLower.toLower = (Char.ofNat n).toLower ∧
        ((Char.ofNat n).isAlpha → (Char.ofNat n).toLower.isAlpha) := by
    decide +kernel
  have hc := hall c.toNat (lt_of_isSchemeChar h)
  rw [Char.ofNat_toNat] at hc
  exact hc h

theorem isScheme_of_splitScheme? {s scheme rest : List Char}
    (h : splitScheme? s = some (scheme, rest)) : IsScheme scheme := by
  unfold splitScheme? at h
  split at h
  · contradiction
  · next c t =>
    split at h
    · next halpha =>
      split at h
      · obtain ⟨rfl, -⟩ := Prod.mk.inj (Option.some.inj h)
        have hc : isSchemeChar c := by simp [isSchemeChar, Char.isAlphanum, halpha]
        have htaken : ∀ d ∈ (c :: t).takeWhile isSchemeChar, isSchemeChar d :=
          List.all_eq_true.mp List.all_takeWhile
        refine ⟨?_, ?_, ?_⟩
        · rw [List.takeWhile_cons_of_pos hc, List.map_cons]
          exact ⟨_, _, rfl, (toLower_of_isSchemeChar hc).2.2 halpha⟩
        · intro d hd
          obtain ⟨e, he, rfl⟩ := List.mem_map.mp hd
          exact (toLower_of_isSchemeChar (htaken e he)).1
        · rw [List.map_map]
          exact List.map_congr_left fun d hd => (toLower_of_isSchemeChar (htaken d hd)).2.1
      · contradiction
    · contradiction

theorem IsScheme.splitScheme? {scheme : List Char} (h : IsScheme scheme) (rest : List Char) :
    splitScheme? (scheme ++ ':' :: rest) = some (scheme, rest) := by
  obtain ⟨c, t, heq, halpha⟩ := h.head
  have hcolon : isSchemeChar ':' = false := by decide
  have htake : (scheme ++ ':' :: rest).takeWhile isSchemeChar = scheme := by
    rw [List.takeWhile_append_of_pos h.chars, List.takeWhile_cons_of_neg (by simp [hcolon]),
      List.append_nil]
  have hdrop : (scheme ++ ':' :: rest).dropWhile isSchemeChar = ':' :: rest := by
    rw [List.dropWhile_append_of_pos h.chars, List.dropWhile_cons_of_neg (by simp [hcolon])]
  have hlower := h.lower
  unfold Url.splitScheme?
  rw [htake, hdrop, hlower, heq, List.cons_append]
  simp only [halpha, if_pos]

theorem scheme_of_readLocated {scheme s : List Char} {u : Url} (h : readLocated scheme s = .ok u) :
    u.scheme = scheme := by
  obtain ⟨_, _, _, -, -, -, hscheme, -⟩ := readLocated_eq_ok h
  exact hscheme

theorem scheme_of_readFile {s : List Char} {u : Url} (h : readFile s = .ok u) :
    u.scheme = "file".toList := by
  unfold readFile at h
  rcases hfile : splitFile s with ⟨host, t⟩
  rw [hfile] at h
  obtain ⟨_, -, h⟩ := exists_ok_of_either h
  rcases hsplit : splitTail .file t with ⟨path, query, fragment⟩
  rw [hsplit] at h
  obtain rfl := Except.ok.inj h
  rfl

theorem scheme_of_readBehind {scheme s : List Char} {u : Url} (h : readBehind scheme s = .ok u) :
    u.scheme = scheme := by
  unfold readBehind at h
  split at h
  · next hk =>
    have hfile : scheme = "file".toList := by
      unfold kindOf at hk
      split at hk
      · assumption
      · split at hk <;> contradiction
    rw [hfile]
    exact scheme_of_readFile h
  · exact scheme_of_readLocated h
  · split at h
    · exact scheme_of_readLocated h
    · obtain rfl := Except.ok.inj h
      rfl

/-! ### What is written -/

/-- An address of the web as it is written. -/
structure Written (u : Url) (a : Authority) : Prop where
  scheme : IsScheme u.scheme
  kind : kindOf u.scheme = .web
  authority : u.authority = some a
  isAuthority : IsAuthority u.scheme a
  path : IsPath u.path
  query : ∀ query, u.query = some query → Kept query

theorem isScheme_of_parse {s : List Char} {u : Url} (h : parse s = .ok u) : IsScheme u.scheme := by
  rw [parse_eq] at h
  split at h
  · contradiction
  · next hscheme =>
    rw [scheme_of_readBehind h]
    exact isScheme_of_splitScheme? hscheme

theorem written_of_parse {s : List Char} {u : Url} (h : parse s = .ok u)
    (hk : kindOf u.scheme = .web) : ∃ a, u.Written a := by
  have hscheme := isScheme_of_parse h
  rw [parse_eq] at h
  split at h
  · contradiction
  · next scheme rest _ =>
    have hsame := scheme_of_readBehind h
    rw [hsame] at hk
    unfold readBehind at h
    rw [hk] at h
    obtain ⟨a, t, path, hauthority, hsplit, hpath, -, ha⟩ := readLocated_eq_ok h
    rw [hk] at hsplit hpath
    refine ⟨a, hscheme, hsame ▸ hk, ha, ?_, ?_, fun query hquery => ?_⟩
    · rw [hsame]
      exact isAuthority_of_readAuthority hk hauthority
    · rw [hpath, if_neg (by simp)]
      exact isPath_readPath path
    · rw [hquery] at hsplit
      exact kept_splitTail rfl hsplit

section

variable {u : Url} {a : Authority} (h : u.Written a)

include h

/-- What stands between the scheme and the query. -/
theorem Written.unmarked_front : Unmarked (a.text ++ u.path) :=
  (unmarked_of_open h.isAuthority.open_text).append h.path.unmarked

theorem Written.slash_mem_front : '/' ∈ a.text ++ u.path := by
  obtain ⟨rest, hrest⟩ := h.path.exists_eq_cons
  rw [hrest]
  exact List.mem_append_right _ List.mem_cons_self

theorem Written.kept_appendAll (pairs : List (List Char × List Char)) :
    Kept (Form.appendAll (u.query.getD []) pairs) := by
  refine Url.kept_appendAll ?_ pairs
  cases hown : u.query with
  | none => exact List.forall_mem_nil _
  | some own => exact h.query own hown

end

/-! ### Reading again -/

theorem clean_of_visible {s : List Char} (h : ∀ c ∈ s, 32 < c.toNat) : clean s = s := by
  have hignored : ∀ {t : List Char}, (∀ c ∈ t, 32 < c.toNat) → t.dropWhile isIgnored = t := by
    intro t ht
    cases t with
    | nil => rfl
    | cons c t =>
        have hc := ht c List.mem_cons_self
        exact List.dropWhile_cons_of_neg (by simp [isIgnored]; omega)
  have hreverse : ∀ c ∈ s.reverse, 32 < c.toNat := fun c hc => h c (List.mem_reverse.mp hc)
  rw [clean_eq, hignored h, hignored hreverse, List.reverse_reverse, List.filter_eq_self]
  intro c hc
  have hvisible := h c hc
  simp only [isBreak, Bool.not_eq_true', Bool.or_eq_false_iff, beq_eq_false_iff_ne]
  refine ⟨⟨?_, ?_⟩, ?_⟩ <;>
  · rintro rfl
    revert hvisible
    decide

theorem readBehind_of_parse {scheme rest : List Char} {u : Url} (hscheme : IsScheme scheme)
    (hvisible : ∀ c ∈ scheme ++ ':' :: rest, 32 < c.toNat)
    (h : parse (scheme ++ ':' :: rest) = .ok u) : readBehind scheme rest = .ok u := by
  rw [parse_eq, clean_of_visible hvisible, hscheme.splitScheme?] at h
  exact h

/-- **A written address is read again as it is**, but for its host: that is read from what is written
of it. -/
theorem Written.eq_of_parse {u v : Url} {a : Authority} (h : u.Written a) {query : List Char}
    (hquery : Kept query) (hvisible : ∀ c ∈ u.scheme ++ ':' :: '/' :: '/' ::
      (a.text ++ u.path ++ '?' :: query), 32 < c.toNat)
    (hread : parse (u.scheme ++ ':' :: '/' :: '/' :: (a.text ++ u.path ++ '?' :: query)) = .ok v) :
    ∃ host, readHost a.host = .ok host ∧
      v = ⟨u.scheme, some { a with host := host }, u.path, some query, none⟩ := by
  obtain ⟨rest, hrest⟩ := h.path.exists_eq_cons
  have hstart : (a.text ++ u.path ++ '?' :: query).dropWhile (isSlash .web) =
      a.text ++ '/' :: (rest ++ '?' :: query) := by
    obtain ⟨c, more, htext⟩ := List.exists_cons_of_ne_nil h.isAuthority.text_ne_nil
    have hopen := h.isAuthority.open_text c (by simp [htext])
    have hc : isSlash .web c = false := by
      unfold endsAuthority at hopen
      exact (Bool.or_eq_false_iff.mp (Bool.or_eq_false_iff.mp hopen).1).1
    rw [htext, hrest, List.cons_append, List.cons_append, List.dropWhile_cons_of_neg (by simp [hc]),
      List.append_assoc, List.cons_append, List.cons_append]
  replace hread := readBehind_of_parse h.scheme hvisible hread
  unfold readBehind at hread
  rw [h.kind] at hread
  dsimp only at hread
  rw [List.dropWhile_cons_of_pos (by decide), List.dropWhile_cons_of_pos (by decide),
    hstart] at hread
  obtain ⟨b, t, path, hauthority, hsplit, hpath, hscheme, hb⟩ := readLocated_eq_ok hread
  obtain ⟨host, hhost, rfl, rfl⟩ := h.isAuthority.eq_of_readAuthority h.kind hauthority
  rw [h.kind] at hpath hsplit
  rw [← List.cons_append, ← hrest, splitTail_query rfl h.path.unmarked hquery] at hsplit
  obtain ⟨rfl, htail⟩ := Prod.mk.inj hsplit
  obtain ⟨hq, hfragment⟩ := Prod.mk.inj htail
  rw [if_neg (by simp), h.path.readPath_eq] at hpath
  refine ⟨host, hhost, ?_⟩
  calc v = ⟨v.scheme, v.authority, v.path, v.query, v.fragment⟩ := rfl
    _ = _ := by rw [hscheme, hb, hpath, ← hq, ← hfragment]

end Roster.Url
