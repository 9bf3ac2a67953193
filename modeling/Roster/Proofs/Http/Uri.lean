import Roster.Http.Uri
import Roster.Proofs.Url.Reread
/-!
# Targets of requests

A text with a scheme and a query is the target of a request only if it names an authority. What the
check leaves of it is the scheme, the authority, the path and the query, and all of its characters are
visible ones.
-/

namespace Roster.Http.Uri

open Url (IsScheme Unmarked Kept)

/-! ### Steps of the check -/

theorem isUriChar_of_pass {s t : Scan} {c : Char} (h : s.pass c = .ok t) :
    c = '%' ∨ isUriChar c := by
  unfold Scan.pass at h
  dsimp only at h
  split at h
  · next hpercent => exact .inl hpercent
  · split at h
    · contradiction
    · next hchar => exact .inr (by simpa using hchar)

theorem splitAuthority_eq_ok {s front left : List Char} (h : splitAuthority s = .ok (front, left)) :
    front = s.takeWhile (!endsAuthority ·) ∧ left = s.dropWhile (!endsAuthority ·) ∧
      ∀ c ∈ front, c = '%' ∨ isUriChar c := by
  unfold splitAuthority at h
  replace h := ok_of_unless h
  extract_lets +onlyGivenNames taken at h
  obtain ⟨scan, hscan, h⟩ := bind_eq_ok_iff.mp h
  obtain ⟨rfl, rfl⟩ := Prod.mk.inj (Except.ok.inj (ok_of_unless h))
  refine ⟨rfl, Url.drop_length_takeWhile _ s, ?_⟩
  have hpassed : ∀ (t : List Char) (before : Scan), t.foldlM Scan.pass before = .ok scan →
      ∀ c ∈ t, c = '%' ∨ isUriChar c := by
    intro t
    induction t with
    | nil => exact fun _ _ => nofun
    | cons c t ih =>
        intro before h
        rw [List.foldlM_cons] at h
        obtain ⟨next, hnext, h⟩ := bind_eq_ok_iff.mp h
        exact List.forall_mem_cons.mpr ⟨isUriChar_of_pass hnext, ih next h⟩
  exact hpassed taken _ hscan

theorem readPath_eq_ok {s path : List Char} {query : Option (List Char)}
    (h : readPath s = .ok (path, query)) :
    path = (s.takeWhile (· ≠ '#')).takeWhile (· ≠ '?') ∧
      queryText query = (s.takeWhile (· ≠ '#')).dropWhile (· ≠ '?') ∧
      (∀ c ∈ path, isPathChar c) ∧ ∀ q, query = some q → ∀ c ∈ q, isQueryChar c := by
  unfold readPath at h
  extract_lets +onlyGivenNames t taken at h
  have hall : ∀ c ∈ taken, isPathChar c := List.all_eq_true.mp (by simpa using not_of_unless h)
  replace h := ok_of_unless h
  split at h
  · next c q hq =>
    split at h
    · next hquery =>
      obtain ⟨rfl, rfl⟩ := Prod.mk.inj (Except.ok.inj h)
      have hmark := List.head?_dropWhile_not (· ≠ '?') t
      rw [hq] at hmark
      have hc : c = '?' := by simpa using hmark
      refine ⟨rfl, ?_, hall, ?_⟩
      · rw [hq, hc]
        rfl
      · intro _ heq
        rw [← Option.some.inj heq]
        exact List.all_eq_true.mp hquery
    · contradiction
  · next hnone =>
    obtain ⟨rfl, rfl⟩ := Prod.mk.inj (Except.ok.inj h)
    exact ⟨rfl, hnone.symm, hall, nofun⟩

/-! ### Visible characters -/

theorem lt_of_isOneOf {marks : String} (hmarks : marks.toList.all (32 < ·.toNat)) {c : Char}
    (h : isOneOf marks c) : 32 < c.toNat := by
  have halphanum : ∀ n < 128, (Char.ofNat n).isAlphanum → 32 < n := by decide +kernel
  rcases Bool.or_eq_true_iff.mp h with h | h
  · have hc := halphanum c.toNat (Text.lt_of_isAlphanum h)
    rw [Char.ofNat_toNat] at hc
    exact hc h
  · exact of_decide_eq_true (List.all_eq_true.mp hmarks c (List.contains_iff_mem.mp h))

theorem lt_of_isUriChar {c : Char} (h : isUriChar c) : 32 < c.toNat :=
  lt_of_isOneOf (by decide) h

theorem lt_of_isSchemeChar {c : Char} (h : isSchemeChar c) : 32 < c.toNat :=
  lt_of_isOneOf (by decide) h

theorem lt_of_isPathChar {c : Char} (h : isPathChar c) : 32 < c.toNat := by
  simp only [isPathChar, Bool.or_eq_true, beq_iff_eq, Bool.and_eq_true, decide_eq_true_eq] at h
  omega

theorem lt_of_isQueryChar {c : Char} (h : isQueryChar c) : 32 < c.toNat := by
  simp only [isQueryChar, Bool.or_eq_true, beq_iff_eq, Bool.and_eq_true, decide_eq_true_eq] at h
  omega

/-! ### Targets with a scheme -/

theorem isSchemeChar_of_url {c : Char} (h : Url.isSchemeChar c) : isSchemeChar c := by
  have hall : ∀ n < 128, Url.isSchemeChar (Char.ofNat n) → isSchemeChar (Char.ofNat n) := by
    decide +kernel
  have hc := hall c.toNat (Url.lt_of_isSchemeChar h)
  rw [Char.ofNat_toNat] at hc
  exact hc h

theorem splitScheme_eq_ok {scheme rest : List Char} (hscheme : IsScheme scheme)
    {parts : Option (List Char × List Char)} (h : splitScheme (scheme ++ ':' :: rest) = .ok parts) :
    parts = none ∨ ∃ behind, rest = '/' :: '/' :: behind ∧ parts = some (scheme, behind) := by
  have hchars : ∀ c ∈ scheme, isSchemeChar c := fun c hc => isSchemeChar_of_url (hscheme.chars c hc)
  have hcolon : isSchemeChar ':' = false := by decide
  unfold splitScheme at h
  rw [List.takeWhile_append_of_pos hchars, List.takeWhile_cons_of_neg (by simp [hcolon]),
    List.append_nil, List.dropWhile_append_of_pos hchars,
    List.dropWhile_cons_of_neg (by simp [hcolon])] at h
  dsimp only at h
  split at h
  · next behind heq =>
    obtain ⟨-, rfl⟩ := List.cons.inj heq
    rw [hscheme.lower] at h
    split at h
    · exact .inr ⟨behind, rfl, (Except.ok.inj h).symm⟩
    · split at h
      · contradiction
      · exact .inr ⟨behind, rfl, (Except.ok.inj h).symm⟩
  · exact .inl (Except.ok.inj h).symm

/-- What is left of a text with a scheme and a mark behind it. -/
theorem ofText_eq_ok {scheme rest : List Char} (hscheme : IsScheme scheme) (hmark : '?' ∈ rest)
    {target : String} (h : ofText (String.ofList (scheme ++ ':' :: rest)) = .ok target) :
    ∃ behind front left path query, rest = '/' :: '/' :: behind ∧
      splitAuthority behind = .ok (front, left) ∧ readPath left = .ok (path, query) ∧
      target = String.ofList (scheme ++ ':' :: '/' :: '/' :: (front ++
        (if path.isEmpty then ['/'] else path) ++ queryText query)) := by
  obtain ⟨c, t, heq, halpha⟩ := hscheme.head
  have hother : ∀ d, d.isAlpha = false → c ≠ d := by
    rintro d hd rfl
    rw [halpha] at hd
    contradiction
  unfold ofText at h
  rw [String.toList_ofList] at h
  replace h := ok_of_unless h
  dsimp only at h
  split at h
  · contradiction
  · next hslash =>
    rw [heq, List.cons_append] at hslash
    exact absurd (List.cons.inj hslash).1 (hother '/' (by decide))
  · next hstar =>
    rw [heq, List.cons_append] at hstar
    exact absurd (List.cons.inj hstar).1 (hother '*' (by decide))
  · obtain ⟨parts, hparts, h⟩ := bind_eq_ok_iff.mp h
    cases parts with
    | none =>
        obtain ⟨⟨front, left⟩, hsplit, h⟩ := bind_eq_ok_iff.mp h
        obtain ⟨-, rfl, -⟩ := splitAuthority_eq_ok hsplit
        dsimp only at h
        split at h
        · next hempty =>
          have hall := List.dropWhile_eq_nil_iff.mp (List.isEmpty_iff.mp hempty)
          have hend := hall '?' (List.mem_append_right _ (List.mem_cons_of_mem _ hmark))
          exact absurd hend (by decide)
        · split at h <;> contradiction
    | some parts =>
        split at hparts
        · cases hparts
        rcases splitScheme_eq_ok hscheme hparts with hnone | ⟨behind, rfl, hboth⟩
        · contradiction
        obtain rfl := Option.some.inj hboth
        obtain ⟨⟨front, left⟩, hsplit, h⟩ := bind_eq_ok_iff.mp h
        replace h := ok_of_unless h
        obtain ⟨⟨path, query⟩, hpath, h⟩ := bind_eq_ok_iff.mp h
        refine ⟨behind, front, left, path, query, rfl, hsplit, hpath, ?_⟩
        rw [← Except.ok.inj h]
        simp only [List.append_assoc]
        rfl

section

variable {scheme rest : List Char} (hscheme : IsScheme scheme) (hmark : '?' ∈ rest)
  {target : String}

include hscheme hmark

/-- A target has no characters but visible ones. -/
theorem visible_of_ofText (h : ofText (String.ofList (scheme ++ ':' :: rest)) = .ok target) :
    ∀ c ∈ target.toList, 32 < c.toNat := by
  obtain ⟨behind, front, left, path, query, rfl, hsplit, hpath, rfl⟩ := ofText_eq_ok hscheme hmark h
  obtain ⟨-, -, hfront⟩ := splitAuthority_eq_ok hsplit
  obtain ⟨-, -, hchars, hquery⟩ := readPath_eq_ok hpath
  rw [String.toList_ofList]
  simp only [List.forall_mem_append, List.forall_mem_cons]
  refine ⟨fun c hc => ?_, by decide, by decide, by decide, ⟨fun c hc => ?_, ?_⟩, ?_⟩
  · exact lt_of_isSchemeChar (isSchemeChar_of_url (hscheme.chars c hc))
  · rcases hfront c hc with rfl | hc
    · decide
    · exact lt_of_isUriChar hc
  · split
    · exact List.forall_mem_singleton.mpr (by decide)
    · exact fun c hc => lt_of_isPathChar (hchars c hc)
  · cases query with
    | none => exact nofun
    | some q =>
        exact List.forall_mem_cons.mpr ⟨by decide, fun c hc => lt_of_isQueryChar (hquery q rfl c hc)⟩

/-- The scheme comes first, and is read again from what is left. -/
theorem scheme_of_target (h : ofText (String.ofList (scheme ++ ':' :: rest)) = .ok target) {u : Url}
    (hread : Url.ofText target = .ok u) : u.scheme = scheme := by
  have hvisible := visible_of_ofText hscheme hmark h
  obtain ⟨_, _, _, _, _, -, -, -, rfl⟩ := ofText_eq_ok hscheme hmark h
  unfold Url.ofText at hread
  rw [String.toList_ofList] at hread hvisible
  exact Url.scheme_of_readBehind (Url.readBehind_of_parse hscheme hvisible hread)

end

/-- What stands in front of a fragment, when there is no hash before it. -/
theorem takeWhile_fragment {before query : List Char} (hbefore : Unmarked before)
    (hquery : Kept query) (fragment : Option (List Char)) :
    (before ++ '?' :: (query ++ Url.fragmentText fragment)).takeWhile (· ≠ '#') =
      before ++ '?' :: query := by
  have hhash : '#' ∉ before ++ '?' :: query := by
    rw [List.mem_append, List.mem_cons, not_or, not_or]
    exact ⟨hbefore.notMem rfl, by decide, hquery.notMem_hash⟩
  have hfragment : (Url.fragmentText fragment).takeWhile (· ≠ '#') = [] := by
    cases fragment <;> rfl
  rw [← List.cons_append, ← List.append_assoc,
    List.takeWhile_append_of_pos (Text.ne_of_notMem hhash), hfragment, List.append_nil]

/-- A text with a path and a query is addressed by all of it but its fragment. -/
theorem target_of_ofText {scheme front query : List Char} {fragment : Option (List Char)}
    {target : String} (hscheme : IsScheme scheme) (hfront : Unmarked front) (hslash : '/' ∈ front)
    (hquery : Kept query)
    (h : ofText (String.ofList
      (scheme ++ ':' :: '/' :: '/' :: (front ++ '?' :: (query ++ Url.fragmentText fragment)))) =
        .ok target) :
    target = String.ofList (scheme ++ ':' :: '/' :: '/' :: (front ++ '?' :: query)) := by
  obtain ⟨behind, taken, left, path, q, heq, hsplit, hpath, rfl⟩ :=
    ofText_eq_ok hscheme (by simp) h
  obtain ⟨rfl, hleft, -⟩ := splitAuthority_eq_ok hsplit
  obtain ⟨hpath, hq, -, -⟩ := readPath_eq_ok hpath
  obtain ⟨-, heq⟩ := List.cons.inj heq
  obtain ⟨-, rfl⟩ := List.cons.inj heq
  have hstop : (!endsAuthority '?') = false := by decide
  rw [Url.takeWhile_append_cons (q := (!endsAuthority ·)) hstop]
  rw [Url.dropWhile_append_cons (q := (!endsAuthority ·)) hstop] at hleft
  subst hleft
  have hparts := List.takeWhile_append_dropWhile (p := (!endsAuthority ·)) (l := front)
  have hbefore : Unmarked (front.dropWhile (!endsAuthority ·)) :=
    hfront.of_subset (List.dropWhile_subset _)
  have hne : front.dropWhile (!endsAuthority ·) ≠ [] := by
    intro hnil
    exact absurd (List.dropWhile_eq_nil_iff.mp hnil '/' hslash) (by decide)
  -- What is left for the path is without marks too, so the query begins where it did.
  generalize front.dropWhile (!endsAuthority ·) = before at hbefore hpath hq hne hparts
  have hcut := takeWhile_fragment hbefore hquery fragment
  have hquestion : '?' ∉ before := hbefore.notMem rfl
  have hmark := Text.ne_of_notMem hquestion
  rw [hcut, List.takeWhile_append_of_pos hmark, List.takeWhile_cons_of_neg (by decide),
    List.append_nil] at hpath
  rw [hcut, List.dropWhile_append_of_pos hmark, List.dropWhile_cons_of_neg (by decide)] at hq
  have hsome : path.isEmpty = false := by simpa [hpath] using hne
  rw [hsome, if_neg Bool.false_ne_true, hpath, hparts, hq]

end Roster.Http.Uri
