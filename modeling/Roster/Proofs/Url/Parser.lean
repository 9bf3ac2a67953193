import Roster.Proofs.Url.Front
/-!
# What becomes of a path behind a text

A URL is read from the front of its text, so the text from the last slashes on is still there when its
path is read. It is not part of the path if a query or a fragment began before it, or if the slashes
were taken for those in front of a host.
-/

namespace Roster.Url

variable {k : SchemeKind} {scheme p s rest : List Char} {c : Char}

/-! ### Behind a scheme -/

/-- What stands behind two slashes. -/
def behindSlashes? (k : SchemeKind) : List Char → Option (List Char)
  | a :: b :: rest => if isSlash k a && isSlash k b then some rest else none
  | _ => none

theorem isMark_of_isSlash (h : isSlash k c) : isMark c = false := by
  unfold isSlash at h
  unfold isMark
  grind

theorem behindSlashes?_eq_some :
    behindSlashes? k s = some rest ↔ ∃ a b, s = a :: b :: rest ∧ isSlash k a ∧ isSlash k b := by
  unfold behindSlashes?
  constructor
  · intro h
    split at h
    · next a b t =>
      split at h
      · next hslashes =>
        obtain rfl := Option.some.inj h
        exact ⟨a, b, rfl, Bool.and_eq_true_iff.mp hslashes⟩
      · contradiction
    · contradiction
  · rintro ⟨a, b, rfl, hslashes⟩
    exact if_pos (Bool.and_eq_true_iff.mpr hslashes)

theorem hasTail_of_behindSlashes? (h : behindSlashes? k s = some rest) :
    hasTail rest = hasTail s := by
  obtain ⟨a, b, rfl, ha, hb⟩ := behindSlashes?_eq_some.mp h
  simp [hasTail, isMark_of_isSlash ha, isMark_of_isSlash hb]

theorem splitFile_eq (s : List Char) : splitFile s = match behindSlashes? .file s with
    | some rest =>
      let host := rest.takeWhile (!endsAuthority .file ·)
      if isDrive host then ([], rest) else (host, rest.drop host.length)
    | none => ([], s) := by
  rcases s with - | ⟨a, - | ⟨b, rest⟩⟩
  · rfl
  · rfl
  · unfold splitFile behindSlashes?
    dsimp only
    split <;> rfl

theorem drop_length_takeWhile {α : Type} (q : α → Bool) (s : List α) :
    s.drop (s.takeWhile q).length = s.dropWhile q := by
  calc
    s.drop (s.takeWhile q).length
        = (s.takeWhile q ++ s.dropWhile q).drop (s.takeWhile q).length := by
          rw [List.takeWhile_append_dropWhile]
    _ = s.dropWhile q := List.drop_left

/-- What is left of a file's text for its path. -/
theorem splitFile_snd (h : behindSlashes? .file s = some rest) :
    (splitFile s).2 = rest ∨ (splitFile s).2 = rest.dropWhile (!endsAuthority .file ·) := by
  rw [splitFile_eq, h]
  dsimp only
  split
  · exact .inl rfl
  · exact .inr (drop_length_takeWhile _ _)

theorem readLocated_eq_ok {u : Url} (h : readLocated scheme s = .ok u) :
    ∃ a t path, readAuthority scheme s = .ok (a, t) ∧
      splitTail (kindOf scheme) t = (path, u.query, u.fragment) ∧
      u.path =
        (if kindOf scheme = .other ∧ path.isEmpty then [] else readPath (kindOf scheme) path) ∧
      u.scheme = scheme ∧ u.authority = some a := by
  unfold readLocated at h
  obtain ⟨⟨a, t⟩, hauthority, h⟩ := bind_eq_ok_iff.mp h
  dsimp only at h
  rcases hsplit : splitTail (kindOf scheme) t with ⟨path, query, fragment⟩
  rw [hsplit] at h
  obtain rfl := Except.ok.inj h
  exact ⟨a, t, path, hauthority, hsplit, rfl, rfl, rfl⟩

theorem readFile_eq_ok {u : Url} (h : readFile s = .ok u) :
    ∃ path, splitTail .file (splitFile s).2 = (path, u.query, u.fragment) ∧
      u.path = readPath .file path := by
  unfold readFile at h
  rcases hfile : splitFile s with ⟨host, t⟩
  rw [hfile] at h
  obtain ⟨_, -, h⟩ := exists_ok_of_either h
  rcases hsplit : splitTail .file t with ⟨path, query, fragment⟩
  rw [hsplit] at h
  obtain rfl := Except.ok.inj h
  exact ⟨path, rfl, rfl⟩

/-- Reads what stands behind the colon of a scheme. -/
def readBehind (scheme s : List Char) : Except Invalid Url :=
  match kindOf scheme with
  | .file => readFile s
  | .web => readLocated scheme (s.dropWhile (isSlash .web))
  | .other =>
    match behindSlashes? .other s with
    | some rest => readLocated scheme rest
    | none => .ok (readOpaque scheme s)

theorem isSlash_other (c : Char) : isSlash .other c = (c == '/') := by
  simp [isSlash, SchemeKind.isSpecial]

theorem readOther_eq : (match s with
    | '/' :: '/' :: rest => readLocated scheme rest
    | _ => .ok (readOpaque scheme s)) = (match behindSlashes? .other s with
    | some rest => readLocated scheme rest
    | none => .ok (readOpaque scheme s)) := by
  split
  · rfl
  · next hno =>
    have hnone : behindSlashes? .other s = none := by
      apply Option.eq_none_iff_forall_ne_some.mpr
      intro rest hrest
      obtain ⟨a, b, rfl, ha, hb⟩ := behindSlashes?_eq_some.mp hrest
      rw [isSlash_other, beq_iff_eq] at ha hb
      subst ha hb
      exact hno rest rfl
    rw [hnone]

theorem parse_eq (s : List Char) : parse s = match splitScheme? (clean s) with
    | none => .error .relative
    | some (scheme, rest) => readBehind scheme rest := by
  unfold parse
  cases splitScheme? (clean s) with
  | none => rfl
  | some parts =>
      dsimp only [readBehind]
      cases kindOf parts.1 with
      | file => rfl
      | web => rfl
      | other => exact readOther_eq

/-- Whether only slashes stand where a host should, so that a path behind them is read as a host. -/
def lacksHost (k : SchemeKind) (behind : List Char) : Bool :=
  behind.all (isSlash k) && (k == .web || behind.length == 1)

/-- Whether a text ends where its host should stand. -/
def awaitsHost (s : List Char) : Bool :=
  match splitScheme? (cleanFront s) with
  | some (scheme, behind) => lacksHost (kindOf scheme) behind
  | none => false

theorem hasTail_of_lacksHost (h : lacksHost k s) : hasTail s = false := by
  have hall := List.all_eq_true.mp (Bool.and_eq_true_iff.mp h).1
  apply List.any_eq_false.mpr
  intro c hc
  simp [isMark_of_isSlash (hall c hc)]

theorem hasTail_of_awaitsHost (h : awaitsHost s) : hasTail s = false := by
  unfold awaitsHost at h
  split at h
  · next scheme behind hscheme =>
    rw [← hasTail_cleanFront, ← hasTail_of_splitScheme? hscheme]
    exact hasTail_of_lacksHost h
  · contradiction

/-! ### With a host -/

section

variable {segments : List (List Char)} (hplain : ∀ s ∈ segments, Plain s) (hne : segments ≠ [])

include hplain hne

theorem isSlash_of_behind {a b : Char} {t : List Char}
    (h : joinSegments segments = a :: b :: t) : isSlash k b = false := by
  obtain ⟨segment, rest, rfl⟩ := List.exists_cons_of_ne_nil hne
  obtain ⟨hsegment, -⟩ := List.forall_mem_cons.mp hplain
  obtain ⟨c, others, rfl⟩ := List.exists_cons_of_ne_nil hsegment.1
  obtain ⟨-, hb⟩ := List.cons.inj h
  obtain ⟨rfl, -⟩ := List.cons.inj hb
  exact isSlash_of_isPlain (hsegment.2 c List.mem_cons_self)

theorem suffix_behindSlashes? {behind t : List Char} (hhost : lacksHost k behind = false)
    (h : behindSlashes? k (behind ++ joinSegments segments) = some t) :
    joinSegments segments <:+ t := by
  obtain ⟨a, b, heq, ha, hb⟩ := behindSlashes?_eq_some.mp h
  -- A plain segment follows the slash of the path, so that slash can only be the second of the two.
  rcases behind with - | ⟨a', - | ⟨b', behind⟩⟩
  · rw [isSlash_of_behind hplain hne heq] at hb
    contradiction
  · obtain ⟨rfl, -⟩ := List.cons.inj heq
    simp [lacksHost, ha] at hhost
  · obtain ⟨-, heq⟩ := List.cons.inj heq
    obtain ⟨-, rfl⟩ := List.cons.inj heq
    exact List.suffix_append _ _

theorem attached_of_readLocated {u : Url} (h : readLocated scheme s = .ok u)
    (hs : joinSegments segments <:+ s) : Attached (joinSegments segments) s u := by
  obtain ⟨a, t, path, hauthority, hsplit, hpath, -⟩ := readLocated_eq_ok h
  obtain ⟨p, hp⟩ := exists_joinSegments_eq hne
  have ht : joinSegments segments <:+ t := by
    rw [hp] at hs ⊢
    exact (readAuthority_suffix rfl hauthority hs).1
  have htail : hasTail t = hasTail s := by
    rw [hp] at hs
    exact hasTail_of_readAuthority hauthority hs
  apply Attached.congr htail
  refine attached_of_splitTail (ordinary_joinSegments hplain) hsplit ht ?_
  intro hsuffix
  have hempty : path.isEmpty = false := by
    rw [hp] at hsuffix
    cases path with
    | nil => simp at hsuffix
    | cons _ _ => rfl
  rw [hpath, hempty, if_neg (by simp)]
  exact joinSegments_suffix_readPath hplain hne hsuffix

theorem attached_readOpaque (hs : joinSegments segments <:+ s) :
    Attached (joinSegments segments) s (readOpaque scheme s) := by
  have hordinary := ordinary_joinSegments hplain
  refine attached_of_splitTail hordinary (k := .other) rfl hs ?_
  intro hsuffix
  unfold readOpaque
  dsimp only
  split
  · exact joinSegments_suffix_readPath hplain hne hsuffix
  · apply suffix_percentEncode _ hsuffix
    intro c hc
    exact of_isOrdinary (by decide +kernel) (hordinary c hc)

theorem attached_of_readFile {u : Url} (h : readFile s = .ok u) (hs : joinSegments segments <:+ s)
    (hbehind : ∀ t, behindSlashes? .file s = some t → joinSegments segments <:+ t) :
    Attached (joinSegments segments) s u := by
  obtain ⟨path, hsplit, hpath⟩ := readFile_eq_ok h
  have hleft : joinSegments segments <:+ (splitFile s).2 ∧ hasTail (splitFile s).2 = hasTail s := by
    cases hslashes : behindSlashes? .file s with
    | none =>
        rw [splitFile_eq, hslashes]
        exact ⟨hs, rfl⟩
    | some rest =>
        have hrest := hbehind rest hslashes
        have htail := hasTail_of_behindSlashes? hslashes
        rcases splitFile_snd hslashes with heq | heq
        · rw [heq]
          exact ⟨hrest, htail⟩
        · obtain ⟨p, hp⟩ := exists_joinSegments_eq hne
          rw [heq, hasTail_dropWhile (by decide), htail]
          rw [hp] at hrest ⊢
          exact ⟨suffix_dropWhile (by decide) hrest, rfl⟩
  apply Attached.congr hleft.2
  refine attached_of_splitTail (ordinary_joinSegments hplain) hsplit hleft.1 ?_
  intro hsuffix
  rw [hpath]
  exact joinSegments_suffix_readPath hplain hne hsuffix

theorem attached_of_readBehind {behind : List Char} {u : Url}
    (hhost : lacksHost (kindOf scheme) behind = false)
    (h : readBehind scheme (behind ++ joinSegments segments) = .ok u) :
    Attached (joinSegments segments) (behind ++ joinSegments segments) u := by
  have hs : joinSegments segments <:+ behind ++ joinSegments segments := List.suffix_append _ _
  unfold readBehind at h
  split at h
  · next hk =>
    rw [hk] at hhost
    exact attached_of_readFile hplain hne h hs fun t ht =>
      suffix_behindSlashes? hplain hne hhost ht
  · next hk =>
    rw [hk] at hhost
    have hmore : ∃ a ∈ behind, isSlash .web a = false := by
      simpa [lacksHost] using hhost
    apply Attached.congr (hasTail_dropWhile (q := isSlash .web) (by decide) _)
    refine attached_of_readLocated hplain hne h ?_
    rw [List.dropWhile_append]
    split
    · next hnil =>
      obtain ⟨a, ha, hslash⟩ := hmore
      have hall := List.dropWhile_eq_nil_iff.mp (List.isEmpty_iff.mp hnil) a ha
      rw [hslash] at hall
      contradiction
    · exact List.suffix_append _ _
  · next hk =>
    rw [hk] at hhost
    split at h
    · next t ht =>
      apply Attached.congr (hasTail_of_behindSlashes? ht)
      exact attached_of_readLocated hplain hne h
        (suffix_behindSlashes? hplain hne hhost ht)
    · obtain rfl := Except.ok.inj h
      exact attached_readOpaque hplain hne hs

theorem parse_append (s : List Char) : parse (s ++ joinSegments segments) =
    match splitScheme? (cleanFront s) with
    | none => .error .relative
    | some (scheme, behind) => readBehind scheme (behind ++ joinSegments segments) := by
  obtain ⟨p, hp⟩ := exists_joinSegments_eq hne
  have hordinary := ordinary_joinSegments hplain
  rw [hp] at hordinary ⊢
  rw [parse_eq, clean_append hordinary, splitScheme?_append]
  cases splitScheme? (cleanFront s) <;> rfl

theorem exists_scheme_of_parse {s : List Char} {u : Url}
    (h : parse (s ++ joinSegments segments) = .ok u) :
    ∃ scheme behind, splitScheme? (cleanFront s) = some (scheme, behind) ∧
      readBehind scheme (behind ++ joinSegments segments) = .ok u := by
  rw [parse_append hplain hne] at h
  split at h
  · contradiction
  · next scheme behind hscheme => exact ⟨scheme, behind, hscheme, h⟩

/-- **What a path behind a text becomes.** Behind a scheme and a host it ends the path of the URL, or
its query or fragment if the text has one. -/
theorem attached_of_parse {s : List Char} {u : Url} (hhost : awaitsHost s = false)
    (h : parse (s ++ joinSegments segments) = .ok u) : Attached (joinSegments segments) s u := by
  obtain ⟨scheme, behind, hscheme, hread⟩ := exists_scheme_of_parse hplain hne h
  have htail : hasTail (behind ++ joinSegments segments) = hasTail s := by
    rw [hasTail_append, hasTail_of_ordinary (ordinary_joinSegments hplain), Bool.or_false,
      hasTail_of_splitScheme? hscheme, hasTail_cleanFront]
  rw [awaitsHost, hscheme] at hhost
  exact (attached_of_readBehind hplain hne hhost hread).congr htail

end

/-! ### Without a host -/

section

variable {host q : List Char} (hhost : Plain host)

include hhost

theorem splitFile_plain {a b : Char} (ha : isSlash .file a) (hb : isSlash .file b) :
    splitFile (a :: b :: (host ++ '/' :: q)) = (host, '/' :: q) := by
  unfold splitFile
  dsimp only
  rw [ha, hb, takeWhile_plain hhost, hhost.isDrive_eq_false]
  simp

variable {segments : List (List Char)} (hplain : ∀ s ∈ segments, Plain s) (hne : segments ≠ [])

include hplain hne

theorem path_of_readLocated {u : Url}
    (h : readLocated scheme (host ++ joinSegments segments) = .ok u) :
    u.path = joinSegments segments := by
  obtain ⟨a, t, path, hauthority, hsplit, hpath, -⟩ := readLocated_eq_ok h
  obtain ⟨p, hp⟩ := exists_joinSegments_eq hne
  rw [hp] at hauthority
  obtain rfl := readAuthority_plain hhost hauthority
  rw [← hp, splitTail_of_not_hasTail (hasTail_of_ordinary (ordinary_joinSegments hplain))] at hsplit
  obtain ⟨rfl, -⟩ := Prod.mk.inj hsplit
  rw [hpath, if_neg (by simp [hp]), readPath_joinSegments hplain hne]

theorem path_of_readFile {a b : Char} (ha : isSlash .file a) (hb : isSlash .file b) {u : Url}
    (h : readFile (a :: b :: (host ++ joinSegments segments)) = .ok u) :
    u.path = joinSegments segments := by
  obtain ⟨path, hsplit, hpath⟩ := readFile_eq_ok h
  obtain ⟨p, hp⟩ := exists_joinSegments_eq hne
  rw [hp, splitFile_plain hhost ha hb, ← hp,
    splitTail_of_not_hasTail (hasTail_of_ordinary (ordinary_joinSegments hplain))] at hsplit
  obtain ⟨rfl, -⟩ := Prod.mk.inj hsplit
  rw [hpath, readPath_joinSegments hplain hne]

omit hhost hplain hne in
theorem behind_eq_of_lacksHost {behind : List Char} (hk : (k == .web) = false)
    (hlost : lacksHost k behind) : ∃ a, behind = [a] ∧ isSlash k a := by
  unfold lacksHost at hlost
  rw [hk, Bool.false_or, Bool.and_eq_true, beq_iff_eq] at hlost
  obtain ⟨a, rfl⟩ := List.length_eq_one_iff.mp hlost.2
  exact ⟨a, rfl, by simpa using hlost.1⟩

/-- The first segment of a path is read as the host that is missing. -/
theorem path_of_lacksHost {behind : List Char} (hlost : lacksHost (kindOf scheme) behind) {u : Url}
    (h : readBehind scheme (behind ++ joinSegments (host :: segments)) = .ok u) :
    u.path = joinSegments segments := by
  have hjoin : joinSegments (host :: segments) = '/' :: (host ++ joinSegments segments) := rfl
  rw [hjoin] at h
  unfold readBehind at h
  split at h
  · next hk =>
    rw [hk] at hlost
    obtain ⟨a, rfl, ha⟩ := behind_eq_of_lacksHost (by decide) hlost
    exact path_of_readFile hhost hplain hne ha rfl h
  · next hk =>
    rw [hk] at hlost
    have hall := (Bool.and_eq_true_iff.mp hlost).1
    obtain ⟨c, name, rfl⟩ := List.exists_cons_of_ne_nil hhost.1
    have hc : isSlash .web c = false := isSlash_of_isPlain (hhost.2 c List.mem_cons_self)
    rw [List.dropWhile_append_of_pos (by simpa using hall), List.dropWhile_cons_of_pos (by decide),
      List.cons_append, List.dropWhile_cons_of_neg (by simp [hc])] at h
    exact path_of_readLocated hhost hplain hne h
  · next hk =>
    rw [hk] at hlost
    obtain ⟨a, rfl, ha⟩ := behind_eq_of_lacksHost (by decide) hlost
    have hslashes : behindSlashes? .other (a :: '/' :: (host ++ joinSegments segments)) =
        some (host ++ joinSegments segments) := behindSlashes?_eq_some.mpr ⟨a, '/', rfl, ha, rfl⟩
    rw [List.singleton_append, hslashes] at h
    exact path_of_readLocated hhost hplain hne h

theorem not_suffix_of_parse {s : List Char} {u : Url} (hlost : awaitsHost s)
    (h : parse (s ++ joinSegments (host :: segments)) = .ok u) :
    ¬joinSegments (host :: segments) <:+ u.path := by
  have hmore : ∀ s ∈ host :: segments, Plain s := List.forall_mem_cons.mpr ⟨hhost, hplain⟩
  obtain ⟨scheme, behind, hscheme, hread⟩ := exists_scheme_of_parse hmore (List.cons_ne_nil _ _) h
  rw [awaitsHost, hscheme] at hlost
  rw [path_of_lacksHost hhost hplain hne hlost hread]
  intro hsuffix
  have hlength := hsuffix.length_le
  have hjoin : joinSegments (host :: segments) = '/' :: (host ++ joinSegments segments) := rfl
  rw [hjoin, List.length_cons, List.length_append] at hlength
  omega

end

end Roster.Url
