import Roster.Proofs.Url.Form
import Roster.Proofs.Url.Host
import Roster.Proofs.Url.Parser
/-!
# The written parts of an address

In the authority of an address of the web, user and password are told from the host by an at sign and
from each other by a colon, and the port from the host by a colon outside brackets. None of these is
left in what it divides, so an authority that is written down is read again part by part. No question
mark and no hash stands before the query, and the query has none of the characters that would be
encoded in it.
-/

namespace Roster.Url

open Text.Normal (delimiters)

/-- A text without question marks and hashes. -/
def Unmarked (s : List Char) : Prop := ∀ c ∈ s, isMark c = false

theorem Unmarked.append {s t : List Char} (hs : Unmarked s) (ht : Unmarked t) : Unmarked (s ++ t) :=
  List.forall_mem_append.mpr ⟨hs, ht⟩

theorem Unmarked.of_subset {s t : List Char} (ht : Unmarked t) (h : s ⊆ t) : Unmarked s :=
  fun c hc => ht c (h hc)

theorem Unmarked.notMem {s : List Char} (h : Unmarked s) {mark : Char} (hmark : isMark mark) :
    mark ∉ s := by
  intro hmem
  rw [h mark hmem] at hmark
  contradiction

theorem unmarked_of_open {k : SchemeKind} {s : List Char}
    (h : ∀ c ∈ s, endsAuthority k c = false) : Unmarked s := by
  intro c hc
  have hends := h c hc
  unfold endsAuthority at hends
  unfold isMark
  grind

/-! ### Users -/

theorem notMem_of_keepUserInfo {c : Char} (hc : keepUserInfo c) : c ∉ delimiters := by
  intro hmem
  have hnone : ∀ d ∈ delimiters, keepUserInfo d = false := Text.forall_mem_of_all (by decide)
  rw [hnone c hmem] at hc
  contradiction

theorem keepUserInfo_of_percentEncode (s : List Char) :
    ∀ c ∈ percentEncode keepUserInfo s, keepUserInfo c :=
  forall_mem_percentEncode (fun _ _ h => h) (by decide) rfl

/-- User and password as they stand in front of an at sign: a colon is what divides them. -/
theorem Authority.credentials_cases {a : Authority} (huser : ':' ∉ a.user) :
    (a.user = [] ∧ a.password = [] ∧ a.credentials = []) ∨
    ∃ login, a.credentials = login ++ ['@'] ∧ login.takeWhile (· ≠ ':') = a.user ∧
      (login.dropWhile (· ≠ ':')).drop 1 = a.password := by
  have hname := Text.ne_of_notMem huser
  by_cases hnone : a.user = [] ∧ a.password = []
  · left
    simp [Authority.credentials, hnone]
  · right
    have hsome : ¬(a.user.isEmpty && a.password.isEmpty) = true := by simpa using hnone
    unfold Authority.credentials
    rw [if_neg hsome]
    cases hpassword : a.password with
    | nil =>
        refine ⟨a.user, by simp, List.takeWhile_eq_self_iff.mpr hname, ?_⟩
        rw [List.dropWhile_eq_nil_iff.mpr hname, List.drop_nil]
    | cons c rest =>
        refine ⟨a.user ++ ':' :: c :: rest, by simp, ?_, ?_⟩
        · rw [List.takeWhile_append_of_pos hname, List.takeWhile_cons_of_neg (by decide),
            List.append_nil]
        · rw [List.dropWhile_append_of_pos hname, List.dropWhile_cons_of_neg (by decide),
            List.drop_one, List.tail_cons]

/-! ### Ports -/

theorem readPort_decimal {scheme : List Char} {n : Nat} (hn : n ≤ 65535)
    (husual : defaultPort? scheme ≠ some n) (q : List Char) :
    readPort scheme (decimal n ++ '/' :: q) = .ok (some n, '/' :: q) := by
  have hdigits : ∀ c ∈ decimal n, c.isDigit := fun c hc =>
    Nat.isDigit_of_mem_toDigits (by decide) (by decide) hc
  have hvalue : (decimal n).foldl (fun n c => n * 10 + (c.toNat - 48)) 0 = n := by
    have hread := Nat.ofDigitChars_ten_toDigits (n := n)
    simp only [Nat.ofDigitChars, Nat.mul_comm 10] at hread
    exact hread
  have hempty : (decimal n).isEmpty = false := by
    simp [decimal]
  have hslash : Char.isDigit '/' = false := by decide
  unfold readPort
  rw [List.takeWhile_append_of_pos hdigits, List.dropWhile_append_of_pos hdigits,
    List.takeWhile_cons_of_neg (by simp [hslash]), List.dropWhile_cons_of_neg (by simp [hslash]),
    List.append_nil]
  dsimp only
  rw [hvalue, if_neg (by omega), hempty, if_neg (by simp [husual])]
  rfl

theorem readPort_eq_ok {scheme s rest : List Char} {n : Nat}
    (h : readPort scheme s = .ok (some n, rest)) : n ≤ 65535 ∧ defaultPort? scheme ≠ some n := by
  have hgiven : ∀ {c : Prop} [Decidable c] {port : Nat},
      (if c ∨ defaultPort? scheme = some port then none else some port) = some n →
        port = n ∧ defaultPort? scheme ≠ some n := by
    intro c _ port hport
    split at hport
    · contradiction
    · next hnot =>
      obtain rfl := Option.some.inj hport
      exact ⟨rfl, fun hsame => hnot (.inr hsame)⟩
  unfold readPort at h
  dsimp only at h
  split at h
  · contradiction
  · next hfits =>
    split at h
    · split at h
      · obtain ⟨hport, husual⟩ := hgiven (Prod.mk.inj (Except.ok.inj h)).1
        exact ⟨by omega, husual⟩
      · contradiction
    · obtain ⟨hport, husual⟩ := hgiven (Prod.mk.inj (Except.ok.inj h)).1
      exact ⟨by omega, husual⟩

/-! ### Authorities -/

/-- An authority as it is written in an address of the web. -/
structure IsAuthority (scheme : List Char) (a : Authority) : Prop where
  user : ∀ c ∈ a.user, keepUserInfo c
  password : ∀ c ∈ a.password, keepUserInfo c
  host : IsHost a.host
  port : ∀ n, a.port = some n → n ≤ 65535 ∧ defaultPort? scheme ≠ some n

theorem isAuthority_of_readAuthority {scheme s rest : List Char} {a : Authority}
    (hk : kindOf scheme = .web) (h : readAuthority scheme s = .ok (a, rest)) :
    IsAuthority scheme a := by
  rcases huser : splitUser (kindOf scheme) s with ⟨user, located⟩
  rcases hgiven : splitHost (kindOf scheme) false located with ⟨given, behind⟩
  obtain ⟨host, port, hhost, rfl, hport⟩ := readAuthority_eq_ok huser hgiven h
  rw [if_pos hk] at hhost
  refine ⟨keepUserInfo_of_percentEncode _, keepUserInfo_of_percentEncode _,
    isHost_of_readHost hhost, ?_⟩
  rintro n rfl
  rcases hport with ⟨t, -, hport⟩ | ⟨-, hnone, -⟩
  · exact readPort_eq_ok hport
  · contradiction

theorem undivided_of_keepUserInfo {s : List Char} (h : ∀ c ∈ s, keepUserInfo c) : Undivided s :=
  fun c hc => notMem_of_keepUserInfo (h c hc)

namespace IsAuthority

variable {scheme : List Char} {a : Authority} (h : IsAuthority scheme a)

include h

theorem open_host : ∀ c ∈ a.host ++ portText a.port, endsAuthority .web c = false := by
  refine List.forall_mem_append.mpr ⟨fun c hc => h.host.endsAuthority_eq_false .web hc, ?_⟩
  cases a.port with
  | none => exact nofun
  | some n =>
      refine List.forall_mem_cons.mpr ⟨by decide, fun c hc => endsAuthority_of_notMem ?_⟩
      exact undivided_toDigits 10 n c hc

theorem notMem_at : '@' ∉ a.host ++ portText a.port := by
  rw [List.mem_append, not_or]
  constructor
  · intro hat
    exact absurd (h.host.mem_of_delimiter hat (by decide)) (by decide)
  · cases a.port with
    | none => exact nofun
    | some n =>
        refine List.not_mem_cons_of_ne_of_not_mem (by decide) fun hat => ?_
        exact undivided_toDigits 10 n '@' hat (by decide)

theorem open_credentials : ∀ c ∈ a.credentials, endsAuthority .web c = false := by
  have huser : ∀ c ∈ a.user, endsAuthority .web c = false := fun c hc =>
    endsAuthority_of_notMem (notMem_of_keepUserInfo (h.user c hc))
  have hpassword : ∀ c ∈ a.password, endsAuthority .web c = false := fun c hc =>
    endsAuthority_of_notMem (notMem_of_keepUserInfo (h.password c hc))
  unfold Authority.credentials
  split
  · exact nofun
  · have hat : ∀ c ∈ ['@'], endsAuthority .web c = false := Text.forall_mem_of_all (by decide)
    refine List.forall_mem_append.mpr ⟨List.forall_mem_append.mpr ⟨huser, ?_⟩, hat⟩
    split
    · exact nofun
    · exact List.forall_mem_cons.mpr ⟨by decide, hpassword⟩

theorem open_text : ∀ c ∈ a.text, endsAuthority .web c = false := by
  unfold Authority.text
  rw [List.append_assoc]
  exact List.forall_mem_append.mpr ⟨h.open_credentials, h.open_host⟩

theorem text_ne_nil : a.text ≠ [] := by
  simp [Authority.text, h.host.ne_nil]

/-- User and password are told from the host behind them, and from each other. -/
theorem splitUser_eq (q : List Char) : ∃ user,
    splitUser .web (a.text ++ '/' :: q) = (user, a.host ++ (portText a.port ++ '/' :: q)) ∧
      (user.getD []).takeWhile (· ≠ ':') = a.user ∧
      ((user.getD []).dropWhile (· ≠ ':')).drop 1 = a.password := by
  have hcolon : ':' ∉ a.user := fun hmem => undivided_of_keepUserInfo h.user ':' hmem (by decide)
  unfold Authority.text
  rcases Authority.credentials_cases hcolon with
    ⟨huser, hpassword, hnone⟩ | ⟨login, hlogin, hname, hpassword⟩
  · refine ⟨none, ?_, by simp [huser], by simp [hpassword]⟩
    rw [hnone, List.nil_append, splitUser_of_notMem h.open_host h.notMem_at, List.append_assoc]
  · have hopen : ∀ c ∈ login, endsAuthority .web c = false := fun c hc =>
      h.open_credentials c (by simp [hlogin, hc])
    refine ⟨some login, ?_, hname, hpassword⟩
    have htext : login ++ ['@'] ++ a.host ++ portText a.port ++ '/' :: q =
        login ++ '@' :: (a.host ++ portText a.port ++ '/' :: q) := by simp
    rw [hlogin, htext, splitUser_append h.open_host hopen h.notMem_at, List.append_assoc]

/-- An authority that is written down is read again; what is read as its host is what is written of
it. -/
theorem eq_of_readAuthority (hk : kindOf scheme = .web) {b : Authority} {q rest : List Char}
    (hread : readAuthority scheme (a.text ++ '/' :: q) = .ok (b, rest)) :
    ∃ host, readHost a.host = .ok host ∧ b = { a with host := host } ∧ rest = '/' :: q := by
  obtain ⟨user, huser, hname, hpassword⟩ := h.splitUser_eq q
  have hgiven : splitHost .web false (a.host ++ (portText a.port ++ '/' :: q)) =
      (a.host, portText a.port ++ '/' :: q) := by
    rw [h.host.splitHost_eq]
    cases a.port with
    | none => rw [portText, List.nil_append, splitHost_of_stop (.inl rfl), List.append_nil]
    | some n => rw [portText, List.cons_append, splitHost_of_stop (.inr rfl), List.append_nil]
  rw [← hk] at huser hgiven
  obtain ⟨host, port, hhost, rfl, hport⟩ := readAuthority_eq_ok huser hgiven hread
  rw [if_pos hk] at hhost
  rw [hname, hpassword, percentEncode_of_keep h.user, percentEncode_of_keep h.password]
  refine ⟨host, hhost, ?_⟩
  cases hwritten : a.port with
  | none =>
      rw [hwritten] at hport
      rcases hport with ⟨t, heq, -⟩ | ⟨-, rfl, rfl⟩
      · simp [portText] at heq
      · exact ⟨rfl, rfl⟩
  | some n =>
      rw [hwritten] at hport
      rcases hport with ⟨t, heq, hport⟩ | ⟨hnot, -, -⟩
      · have ht : decimal n ++ '/' :: q = t := (List.cons.inj heq).2
        obtain ⟨hfits, husual⟩ := h.port n hwritten
        rw [← ht, readPort_decimal hfits husual] at hport
        obtain ⟨rfl, rfl⟩ := Prod.mk.inj (Except.ok.inj hport)
        exact ⟨rfl, rfl⟩
      · exact absurd rfl (hnot _)

end IsAuthority

/-! ### Queries -/

/-- A query with no characters that an address of the web encodes in one. -/
def Kept (query : List Char) : Prop := ∀ c ∈ query, keepSpecialQuery c

theorem Kept.append {query other : List Char} (h : Kept query) (hother : Kept other) :
    Kept (query ++ other) :=
  List.forall_mem_append.mpr ⟨h, hother⟩

theorem kept_splitTail {k : SchemeKind} (hk : k.isSpecial) {s path query : List Char}
    {fragment : Option (List Char)} (h : splitTail k s = (path, some query, fragment)) :
    Kept query := by
  have hdigits : ∀ n < 16, keepSpecialQuery (Nat.digitChar n).toUpper := by decide
  have hencoded : ∀ t, Kept (percentEncode keepSpecialQuery t) := fun _ =>
    forall_mem_percentEncode (fun _ _ h => h) hdigits rfl
  unfold splitTail at h
  rw [if_pos hk] at h
  dsimp only at h
  split at h
  · split at h <;>
    · obtain ⟨-, hquery, -⟩ := h
      exact hencoded _
  · simp at h
  · simp at h

theorem kept_encode (s : List Char) : Kept (Form.encode s) := by
  have hplain : ∀ n < 128, Form.keep (Char.ofNat n) → keepSpecialQuery (Char.ofNat n) := by
    decide +kernel
  intro c hc
  rcases Form.keep_of_mem_encode hc with hkeep | rfl | rfl
  · have hc := hplain c.toNat (Form.lt_of_keep hkeep)
    rw [Char.ofNat_toNat] at hc
    exact hc hkeep
  · rfl
  · rfl

theorem kept_encodePair (name value : List Char) : Kept (Form.encodePair name value) :=
  (kept_encode name).append (List.forall_mem_cons.mpr ⟨rfl, kept_encode value⟩)

theorem kept_appendAll {query : List Char} (h : Kept query) (pairs : List (List Char × List Char)) :
    Kept (Form.appendAll query pairs) := by
  have happend : ∀ {query}, Kept query → ∀ name value, Kept (Form.append query name value) := by
    intro query h name value
    unfold Form.append
    split
    · exact kept_encodePair name value
    · exact h.append (List.forall_mem_cons.mpr ⟨rfl, kept_encodePair name value⟩)
  unfold Form.appendAll
  induction pairs generalizing query with
  | nil => exact h
  | cons p pairs ih => exact ih (happend h p.1 p.2)

theorem Kept.notMem_hash {query : List Char} (h : Kept query) : '#' ∉ query :=
  fun hmem => absurd (h '#' hmem) (by decide)

/-- The end of a text from its first mark on is its query. -/
theorem splitTail_query {k : SchemeKind} (hk : k.isSpecial) {front query : List Char}
    (hfront : Unmarked front) (hquery : Kept query) :
    splitTail k (front ++ '?' :: query) = (front, some query, none) := by
  have hstop : ∀ c ∈ front, (!(c == '?' || c == '#')) = true := by
    intro c hc
    have hmark := hfront c hc
    unfold isMark at hmark
    simp [hmark]
  have hhash := Text.ne_of_notMem hquery.notMem_hash
  unfold splitTail
  rw [List.takeWhile_append_of_pos hstop, List.dropWhile_append_of_pos hstop, if_pos hk,
    List.takeWhile_cons_of_neg (by decide), List.dropWhile_cons_of_neg (by decide), List.append_nil]
  simp only [List.takeWhile_eq_self_iff.mpr hhash, List.dropWhile_eq_nil_iff.mpr hhash,
    percentEncode_of_keep hquery]

end Roster.Url
