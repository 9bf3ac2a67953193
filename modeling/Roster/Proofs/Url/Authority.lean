import Roster.Proofs.Outcome
import Roster.Proofs.Url.Tail
/-!
# What an authority leaves

User, host and port are read from the front of a text. A slash ends each of them, and so does the
beginning of a query or a fragment, so the text from there on is left as it is.
-/

namespace Roster.Url

section

variable {α : Type} {q : α → Bool} {c : α} {p s : List α}

theorem dropWhile_append_cons (hc : q c = false) (s : List α) :
    (s ++ c :: p).dropWhile q = s.dropWhile q ++ c :: p := by
  rw [List.dropWhile_append]
  split
  · next hnil => simp [List.isEmpty_iff.mp hnil, hc]
  · rfl

theorem takeWhile_append_cons (hc : q c = false) (s : List α) :
    (s ++ c :: p).takeWhile q = s.takeWhile q := by
  induction s with
  | nil => simp [hc]
  | cons a rest ih => rw [List.cons_append, List.takeWhile_cons, List.takeWhile_cons, ih]

theorem suffix_dropWhile (hc : q c = false) (h : c :: p <:+ s) : c :: p <:+ s.dropWhile q := by
  obtain ⟨b, rfl⟩ := h
  rw [dropWhile_append_cons hc]
  exact List.suffix_append _ _

end

/-- A character that ends each part of an authority, whatever the scheme. -/
def endsHost (c : Char) : Bool := c == '/' || isMark c

variable {k : SchemeKind} {scheme p s rest : List Char} {c : Char}

theorem endsAuthority_of_endsHost (hc : endsHost c) : endsAuthority k c := by
  unfold endsHost isMark at hc
  unfold endsAuthority isSlash
  grind

theorem isDigit_of_endsHost (hc : endsHost c) : c.isDigit = false := by
  simp only [endsHost, isMark, Bool.or_eq_true, beq_iff_eq] at hc
  rcases hc with rfl | rfl | rfl <;> rfl

theorem splitUser_suffix (hc : endsHost c) (hs : c :: p <:+ s) :
    c :: p <:+ (splitUser k s).2 ∧ (splitUser k s).2 <:+ s := by
  unfold splitUser
  dsimp only
  split
  · next hat =>
    refine ⟨?_, List.drop_suffix _ s⟩
    have hends : (!endsAuthority k c) = false := by simp [endsAuthority_of_endsHost hc]
    have hstop := suffix_dropWhile (q := (!endsAuthority k ·)) hends hs
    generalize hfront : s.takeWhile (!endsAuthority k ·) = front at hat
    have hparts : s = front ++ s.dropWhile (!endsAuthority k ·) := by
      rw [← hfront]
      exact List.takeWhile_append_dropWhile.symm
    have hpos : 0 < front.length := List.length_pos_of_mem (List.contains_iff_mem.mp hat)
    generalize (front.reverse.takeWhile (· ≠ '@')).reverse = host
    have hle : (front.take (front.length - host.length - 1)).length + 1 ≤ front.length := by
      rw [List.length_take]
      omega
    rw [hparts, List.drop_append_of_le_length hle]
    exact hstop.trans (List.suffix_append _ _)
  · exact ⟨hs, List.suffix_rfl⟩

theorem splitHost_suffix (hc : endsHost c) (inside : Bool) (hs : c :: p <:+ s) :
    c :: p <:+ (splitHost k inside s).2 ∧ (splitHost k inside s).2 <:+ s := by
  induction s generalizing inside with
  | nil => simp at hs
  | cons a rest ih =>
      unfold splitHost
      split
      · exact ⟨hs, List.suffix_rfl⟩
      · next hstop =>
        have hrest : c :: p <:+ rest := by
          rcases List.suffix_cons_iff.mp hs with heq | hrest
          · obtain ⟨rfl, -⟩ := List.cons.inj heq
            simp [endsAuthority_of_endsHost hc] at hstop
          · exact hrest
        obtain ⟨hkept, hpart⟩ :=
          ih (if a = '[' then true else if a = ']' then false else inside) hrest
        exact ⟨hkept, hpart.trans (List.suffix_cons a rest)⟩

theorem readPort_suffix (hc : endsHost c) {port : Option Nat}
    (h : readPort scheme s = .ok (port, rest)) (hs : c :: p <:+ s) :
    c :: p <:+ rest ∧ rest <:+ s := by
  have hstop := suffix_dropWhile (isDigit_of_endsHost hc) hs
  have hrest : s.dropWhile Char.isDigit = rest := by
    unfold readPort at h
    dsimp only at h
    split at h
    · contradiction
    · split at h
      · split at h
        · exact (Prod.mk.inj (Except.ok.inj h)).2
        · contradiction
      · next hnone =>
        rw [List.head?_eq_none_iff.mp hnone] at hstop
        simp at hstop
  rw [← hrest]
  exact ⟨hstop, List.dropWhile_suffix _⟩

/-- What is read of an authority whose user and host have been told apart. -/
theorem readAuthority_eq_ok {user : Option (List Char)} {located given behind : List Char}
    {a : Authority} (huser : splitUser (kindOf scheme) s = (user, located))
    (hgiven : splitHost (kindOf scheme) false located = (given, behind))
    (h : readAuthority scheme s = .ok (a, rest)) :
    ∃ host port,
      (if kindOf scheme = .web then readHost given else readOpaqueHost given) = .ok host ∧
      a = ⟨percentEncode keepUserInfo ((user.getD []).takeWhile (· ≠ ':')),
        percentEncode keepUserInfo (((user.getD []).dropWhile (· ≠ ':')).drop 1), host, port⟩ ∧
      ((∃ t, behind = ':' :: t ∧ readPort scheme t = .ok (port, rest)) ∨
        ((∀ t, behind ≠ ':' :: t) ∧ port = none ∧ rest = behind)) := by
  unfold readAuthority at h
  extract_lets +onlyGivenNames k at h
  rw [huser] at h
  replace h := ok_of_unless h
  extract_lets +onlyGivenNames login name password at h
  rw [hgiven] at h
  replace h := ok_of_unless h
  obtain ⟨host, hhost, h⟩ := exists_ok_of_either h
  replace h := ok_of_unless h
  extract_lets +onlyGivenNames finish at h
  have hfinish : ∀ port t, finish (port, t) = .ok (a, rest) →
      a = ⟨percentEncode keepUserInfo name, percentEncode keepUserInfo password, host, port⟩ ∧
        rest = t := by
    intro port t h
    obtain ⟨rfl, rfl⟩ := Prod.mk.inj (Except.ok.inj (ok_of_unless h))
    exact ⟨rfl, rfl⟩
  clear_value finish
  split at h
  · obtain ⟨⟨port, t⟩, hport, h⟩ := bind_eq_ok_iff.mp h
    obtain ⟨rfl, rfl⟩ := hfinish port t h
    exact ⟨host, port, hhost, rfl, .inl ⟨_, rfl, hport⟩⟩
  · next hcolon =>
    obtain ⟨rfl, rfl⟩ := hfinish none _ h
    exact ⟨host, none, hhost, rfl, .inr ⟨hcolon, rfl, rfl⟩⟩

theorem readAuthority_suffix (hc : endsHost c) {a : Authority}
    (h : readAuthority scheme s = .ok (a, rest)) (hs : c :: p <:+ s) :
    c :: p <:+ rest ∧ rest <:+ s := by
  have hlocated := splitUser_suffix (k := kindOf scheme) hc hs
  rcases huser : splitUser (kindOf scheme) s with ⟨user, located⟩
  rw [huser] at hlocated
  have hbehind := splitHost_suffix (k := kindOf scheme) hc false hlocated.1
  rcases hhost : splitHost (kindOf scheme) false located with ⟨host, behind⟩
  rw [hhost] at hbehind
  have hpart := hbehind.2.trans hlocated.2
  obtain ⟨_, _, -, -, ⟨t, rfl, hport⟩ | ⟨-, -, rfl⟩⟩ := readAuthority_eq_ok huser hhost h
  · obtain ⟨hbehind, -⟩ := hbehind
    have ht : c :: p <:+ t := by
      rcases List.suffix_cons_iff.mp hbehind with heq | ht
      · obtain ⟨rfl, -⟩ := List.cons.inj heq
        contradiction
      · exact ht
    obtain ⟨hkept, hrest⟩ := readPort_suffix hc hport ht
    exact ⟨hkept, hrest.trans ((List.suffix_cons ':' t).trans hpart)⟩
  · exact ⟨hbehind.1, hpart⟩

theorem hasTail_of_readAuthority {a : Authority} (h : readAuthority scheme s = .ok (a, rest))
    (hs : '/' :: p <:+ s) : hasTail rest = hasTail s := by
  apply hasTail_of_suffix
  · intro c t hmark ht
    exact (readAuthority_suffix (by simp [endsHost, hmark]) h ht).1
  · exact (readAuthority_suffix rfl h hs).2

/-! ### Up to a slash -/

section

variable {text : List Char} (hopen : ∀ c ∈ text, endsAuthority k c = false)

include hopen

theorem takeWhile_open (q : List Char) :
    (text ++ '/' :: q).takeWhile (!endsAuthority k ·) = text := by
  have hslash : endsAuthority k '/' := endsAuthority_of_endsHost rfl
  rw [takeWhile_append_cons (by simp [hslash])]
  apply List.takeWhile_eq_self_iff.mpr
  intro c hc
  simp [hopen c hc]

theorem splitUser_of_notMem (hat : '@' ∉ text) (q : List Char) :
    splitUser k (text ++ '/' :: q) = (none, text ++ '/' :: q) := by
  unfold splitUser
  rw [takeWhile_open hopen]
  dsimp only
  rw [if_neg (by simpa using hat)]

/-- What stands before the last at sign is the user. -/
theorem splitUser_append {user : List Char} (huser : ∀ c ∈ user, endsAuthority k c = false)
    (hat : '@' ∉ text) (q : List Char) :
    splitUser k (user ++ '@' :: (text ++ '/' :: q)) = (some user, text ++ '/' :: q) := by
  have hends : endsAuthority k '@' = false := by simp [endsAuthority, isSlash]
  have hfront : (user ++ '@' :: (text ++ '/' :: q)).takeWhile (!endsAuthority k ·) =
      user ++ '@' :: text := by
    rw [← List.cons_append, ← List.append_assoc]
    refine takeWhile_open (List.forall_mem_append.mpr ⟨huser, ?_⟩) q
    exact List.forall_mem_cons.mpr ⟨hends, hopen⟩
  have hhost : ((user ++ '@' :: text).reverse.takeWhile (· ≠ '@')).reverse = text := by
    have hreverse : '@' ∉ text.reverse := by simpa using hat
    rw [List.reverse_append, List.reverse_cons, List.append_assoc, List.singleton_append,
      takeWhile_append_cons (by decide), List.takeWhile_eq_self_iff.mpr
        (Text.ne_of_notMem hreverse), List.reverse_reverse]
  have hlength : (user ++ '@' :: text).length - text.length - 1 = user.length := by
    rw [List.length_append, List.length_cons]
    omega
  unfold splitUser
  rw [hfront]
  dsimp only
  rw [hhost, hlength, List.take_left, if_pos (by simp), List.drop_append]
  simp

end

/-! ### Plain hosts -/

theorem endsAuthority_of_isPlain (h : isPlain c) : endsAuthority k c = false := by
  have hmark := isMark_of_isOrdinary (isOrdinary_of_isPlain h)
  unfold isMark at hmark
  unfold endsAuthority
  rw [isSlash_of_isPlain h, Bool.false_or, hmark]

/-- A host goes on over characters that neither end it nor open or close brackets. -/
theorem splitHost_append {inside : Bool} {host : List Char} (hhost : ∀ c ∈ host,
    endsAuthority k c = false ∧ c ≠ '[' ∧ c ≠ ']' ∧ (c = ':' → inside)) (q : List Char) :
    splitHost k inside (host ++ q) =
      (host ++ (splitHost k inside q).1, (splitHost k inside q).2) := by
  induction host with
  | nil => rfl
  | cons c rest ih =>
      obtain ⟨⟨hends, hopen, hclose, hcolon⟩, hrest⟩ := List.forall_mem_cons.mp hhost
      have hgoes : ¬(endsAuthority k c || (c == ':' && !inside)) = true := by
        simpa [hends] using hcolon
      rw [List.cons_append, splitHost, if_neg hgoes, if_neg hopen, if_neg hclose]
      dsimp only
      rw [ih hrest]
      rfl

theorem splitHost_of_stop (hc : endsAuthority k c ∨ c = ':') (q : List Char) :
    splitHost k false (c :: q) = ([], c :: q) := by
  rw [splitHost, if_pos (by simpa using hc)]

theorem splitHost_plain {host q : List Char} (hplain : ∀ c ∈ host, isPlain c) :
    splitHost k false (host ++ '/' :: q) = (host, '/' :: q) := by
  have hother : ∀ c ∈ host, ∀ d, isPlain d = false → c ≠ d := by
    rintro c hc d hd rfl
    rw [hplain c hc] at hd
    contradiction
  rw [splitHost_append fun c hc => ⟨endsAuthority_of_isPlain (hplain c hc),
      hother c hc '[' (by decide), hother c hc ']' (by decide),
      fun hcolon => absurd hcolon (hother c hc ':' (by decide))⟩,
    splitHost_of_stop (.inl (endsAuthority_of_endsHost rfl)), List.append_nil]

section

variable {host q : List Char} (hhost : Plain host)

include hhost

theorem takeWhile_plain :
    (host ++ '/' :: q).takeWhile (!endsAuthority k ·) = host :=
  takeWhile_open (fun c hc => endsAuthority_of_isPlain (hhost.2 c hc)) q

theorem splitUser_plain : splitUser k (host ++ '/' :: q) = (none, host ++ '/' :: q) :=
  splitUser_of_notMem (fun c hc => endsAuthority_of_isPlain (hhost.2 c hc))
    (hhost.notMem (by decide)) q

theorem readAuthority_plain {a : Authority}
    (h : readAuthority scheme (host ++ '/' :: q) = .ok (a, rest)) : rest = '/' :: q := by
  obtain ⟨_, _, -, -, ⟨t, heq, -⟩ | ⟨-, -, heq⟩⟩ :=
    readAuthority_eq_ok (splitUser_plain hhost) (splitHost_plain hhost.2) h
  · simp at heq
  · exact heq

end

end Roster.Url
