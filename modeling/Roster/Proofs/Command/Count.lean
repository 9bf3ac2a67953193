import Roster.Command.Count
import Roster.Proofs.Outcome
import Roster.Proofs.Text.Ascii
/-!
# Which texts are counts

A text is read as a count exactly when it writes that count in decimal: with digits alone, of which the
first may be zeros, or with these behind a sign. No number is cut off on the way. Any other text is
refused, and `Refuses` says for which reason.
-/

namespace Roster.Count

/-- Digits write a number. -/
def Digits (cs : List Char) (n : Nat) : Prop :=
  cs ≠ [] ∧ (∀ c ∈ cs, c.isDigit) ∧ Nat.ofDigitChars 10 cs 0 = n

/-- A text writes a whole number. -/
inductive Writes : List Char → Int → Prop
  | unsigned {cs : List Char} {n : Nat} (h : Digits cs n) : Writes cs n
  | plus {cs : List Char} {n : Nat} (h : Digits cs n) : Writes ('+' :: cs) n
  | minus {cs : List Char} {n : Nat} (h : Digits cs n) : Writes ('-' :: cs) (-n)

/-! ### Digits -/

section

variable {limit n k : Nat} {overflow : Refusal} {cs : List Char}

theorem digits_eq_ok_iff (hn : n ≤ limit) :
    digits limit overflow n cs = .ok k ↔
      (∀ c ∈ cs, c.isDigit) ∧ Nat.ofDigitChars 10 cs n = k ∧ k ≤ limit := by
  induction cs generalizing n with
  | nil =>
      rw [digits, Except.ok.injEq]
      exact ⟨fun h => ⟨nofun, h, h ▸ hn⟩, fun h => h.2.1⟩
  | cons c rest ih =>
      rw [digits, List.forall_mem_cons, Nat.ofDigitChars_cons, Nat.mul_comm 10 n]
      cases hc : c.isDigit with
      | false => simp
      | true =>
          simp only [Bool.not_true, Bool.false_eq_true, if_false, true_and]
          split
          · next hlarge =>
            -- What comes behind does not make the number smaller.
            refine iff_of_false nofun ?_
            rintro ⟨-, hk, hfits⟩
            have hgrows := Text.le_ofDigitChars rest (n * 10 + (c.toNat - '0'.toNat))
            rw [hk] at hgrows
            exact absurd (Nat.le_trans hgrows hfits) (Nat.not_le.mpr hlarge)
          · next hfits => exact ih (Nat.not_lt.mp hfits)

theorem unsigned_eq_ok_iff :
    unsigned limit overflow cs = .ok k ↔ Digits cs k ∧ k ≤ limit := by
  unfold unsigned Digits
  split
  · exact iff_of_false nofun fun h => h.1.1 rfl
  · next hne =>
    rw [digits_eq_ok_iff (Nat.zero_le limit)]
    exact ⟨fun h => ⟨⟨hne, h.1, h.2.1⟩, h.2.2⟩, fun h => ⟨h.1.2.1, h.1.2.2, h.2⟩⟩

theorem Digits.head_isDigit {c : Char} (h : Digits (c :: cs) n) : c.isDigit :=
  h.2.1 c List.mem_cons_self

end

/-! ### Numbers with a sign -/

theorem readInt_of_unsigned {c : Char} (hplus : c ≠ '+') (hminus : c ≠ '-') (cs : List Char) :
    readInt (c :: cs) = (unsigned (Nat.pow 2 63 - 1) .tooLarge (c :: cs)).map Int.ofNat := by
  unfold readInt
  split
  · contradiction
  · next heq => exact absurd (List.cons.inj heq).1 hplus
  · next heq => exact absurd (List.cons.inj heq).1 hminus
  · rfl

theorem writes_of_readInt {cs : List Char} {n : Int} (h : readInt cs = .ok n) :
    Writes cs n ∧ -9223372036854775808 ≤ n ∧ n ≤ 9223372036854775807 := by
  unfold readInt at h
  split at h
  · contradiction
  · obtain ⟨k, hk, rfl⟩ := map_eq_ok_iff.mp h
    obtain ⟨hdigits, hfits⟩ := unsigned_eq_ok_iff.mp hk
    exact ⟨.plus hdigits, Int.le_trans (by decide) (Int.natCast_nonneg k), Int.ofNat_le.mpr hfits⟩
  · obtain ⟨n, hn, rfl⟩ := map_eq_ok_iff.mp h
    obtain ⟨k, hk, hkn⟩ := bind_eq_ok_iff.mp hn
    obtain rfl := Except.ok.inj hkn
    obtain ⟨hdigits, hfits⟩ := unsigned_eq_ok_iff.mp hk
    exact ⟨.minus hdigits, Int.neg_le_neg (Int.ofNat_le.mpr hfits), by omega⟩
  · obtain ⟨k, hk, rfl⟩ := map_eq_ok_iff.mp h
    obtain ⟨hdigits, hfits⟩ := unsigned_eq_ok_iff.mp hk
    exact ⟨.unsigned hdigits, Int.le_trans (by decide) (Int.natCast_nonneg k),
      Int.ofNat_le.mpr hfits⟩

/-- A number that is written and not too large is read. -/
theorem readInt_of_writes {cs : List Char} {n : Int} (h : Writes cs n)
    (hlow : -9223372036854775808 ≤ n) (hhigh : n ≤ 9223372036854775807) :
    readInt cs = .ok n := by
  cases h with
  | @unsigned _ k hdigits =>
      have hk : k ≤ 9223372036854775807 := by omega
      obtain ⟨c, rest, rfl⟩ := List.exists_cons_of_ne_nil hdigits.1
      have hsign : ∀ d : Char, d.isDigit = false → c ≠ d := by
        rintro _ hd rfl
        exact Bool.eq_false_iff.mp hd hdigits.head_isDigit
      rw [readInt_of_unsigned (hsign '+' (by decide)) (hsign '-' (by decide))]
      exact map_eq_ok_iff.mpr ⟨k, unsigned_eq_ok_iff.mpr ⟨hdigits, hk⟩, rfl⟩
  | @plus _ k hdigits =>
      have hk : k ≤ 9223372036854775807 := by omega
      exact map_eq_ok_iff.mpr ⟨k, unsigned_eq_ok_iff.mpr ⟨hdigits, hk⟩, rfl⟩
  | @minus _ k hdigits =>
      have hk : k ≤ 9223372036854775808 := by omega
      refine map_eq_ok_iff.mpr ⟨k, ?_, rfl⟩
      exact bind_eq_ok_iff.mpr ⟨k, unsigned_eq_ok_iff.mpr ⟨hdigits, hk⟩, rfl⟩

/-! ### Counts -/

theorem ofInt_eq_ok_iff {n : Int} {c : Count} : ofInt n = .ok c ↔ n = c.val := by
  have hpos := c.one_le
  have hmax := c.le_max
  unfold ofInt
  split
  · next h =>
    rw [Except.ok.injEq]
    constructor
    · rintro rfl
      exact (Int.toNat_of_nonneg (by omega)).symm
    · rintro rfl
      rfl
  · next h =>
    refine iff_of_false nofun ?_
    rintro rfl
    exact h ⟨hpos, hmax⟩

theorem exists_val_eq_iff {n : Int} : (∃ c : Count, c.val = n) ↔ 1 ≤ n ∧ n ≤ 4294967295 := by
  constructor
  · rintro ⟨c, rfl⟩
    have hpos := c.one_le
    have hmax : c.val ≤ 4294967295 := c.le_max
    omega
  · rintro ⟨hlow, hhigh⟩
    obtain ⟨k, rfl⟩ := Int.eq_ofNat_of_zero_le (Int.le_trans (by decide) hlow)
    exact ⟨⟨k, Int.ofNat_le.mp hlow, Int.ofNat_le.mp hhigh⟩, rfl⟩

theorem parse_eq_ok_iff {text : String} {c : Count} :
    parse text = .ok c ↔ Writes text.toList c.val := by
  have hmax : c.val ≤ 4294967295 := c.le_max
  unfold parse
  rw [bind_eq_ok_iff]
  constructor
  · rintro ⟨n, hread, hcount⟩
    obtain rfl := ofInt_eq_ok_iff.mp hcount
    exact (writes_of_readInt hread).1
  · intro h
    exact ⟨c.val, readInt_of_writes h (by omega) (by omega), ofInt_eq_ok_iff.mpr rfl⟩

/-! ### Refusals -/

/-- The number that the digits write with which a text starts. -/
def leading (cs : List Char) : Nat := Nat.ofDigitChars 10 (cs.takeWhile Char.isDigit) 0

/-- A text has no digits, or something else in it. -/
def Malformed (cs : List Char) : Prop := cs = [] ∨ ∃ c ∈ cs, c.isDigit = false

/-- A text that is not empty has a sign with something behind it, or no sign. What is behind may come
to a number up to a limit, and is refused as said when it comes to more. -/
inductive Signed : List Char → Nat → Refusal → List Char → Prop
  | unsigned {c : Char} {cs : List Char} (hplus : c ≠ '+') (hminus : c ≠ '-') :
      Signed (c :: cs) 9223372036854775807 .tooLarge (c :: cs)
  | plus (cs : List Char) : Signed ('+' :: cs) 9223372036854775807 .tooLarge cs
  | minus (cs : List Char) : Signed ('-' :: cs) 9223372036854775808 .tooSmall cs

/-- Why a text is no count. The digits that it starts with may come to more than 64 bits hold, whatever
is behind them; if they do not, it may be no number at all, or a number that is out of range. -/
inductive Refuses (cs : List Char) : Refusal → Prop
  | empty (h : cs = []) : Refuses cs .empty
  | overflow {limit : Nat} {overflow : Refusal} {behind : List Char}
      (hsign : Signed cs limit overflow behind) (hlarge : limit < leading behind) :
      Refuses cs overflow
  | digit {limit : Nat} {overflow : Refusal} {behind : List Char}
      (hsign : Signed cs limit overflow behind) (hfits : leading behind ≤ limit)
      (hmalformed : Malformed behind) : Refuses cs .digit
  | outside {n : Int} (hwrites : Writes cs n) (hlow : -9223372036854775808 ≤ n)
      (hhigh : n ≤ 9223372036854775807) (hout : n < 1 ∨ 4294967295 < n) : Refuses cs (.outside n)

section

variable {limit n : Nat} {overflow reason : Refusal} {cs behind : List Char}

theorem digits_eq_error_iff (hn : n ≤ limit) :
    digits limit overflow n cs = .error reason ↔
      limit < Nat.ofDigitChars 10 (cs.takeWhile Char.isDigit) n ∧ overflow = reason ∨
        Nat.ofDigitChars 10 (cs.takeWhile Char.isDigit) n ≤ limit ∧
          (∃ c ∈ cs, c.isDigit = false) ∧ .digit = reason := by
  induction cs generalizing n with
  | nil => simp [digits, Nat.not_lt.mpr hn]
  | cons c rest ih =>
      rw [digits]
      cases hc : c.isDigit with
      | false => simp [hc, hn, Nat.not_lt.mpr hn]
      | true =>
          have hrest : (∃ d ∈ c :: rest, d.isDigit = false) ↔ ∃ d ∈ rest, d.isDigit = false := by
            simp [hc]
          rw [List.takeWhile_cons_of_pos hc, Nat.ofDigitChars_cons, Nat.mul_comm 10 n, hrest]
          simp only [Bool.not_true, Bool.false_eq_true, if_false]
          split
          · next hlarge =>
            -- The number only grows with more digits, so nothing behind is looked at any more.
            have hgrows := Text.le_ofDigitChars (rest.takeWhile Char.isDigit)
              (n * 10 + (c.toNat - '0'.toNat))
            have hmore := Nat.lt_of_lt_of_le hlarge hgrows
            rw [Except.error.injEq, and_iff_right hmore, or_iff_left]
            exact fun h => Nat.not_le.mpr hmore h.1
          · next hfits => exact ih (Nat.not_lt.mp hfits)

theorem unsigned_eq_error_iff :
    unsigned limit overflow cs = .error reason ↔
      limit < leading cs ∧ overflow = reason ∨
        leading cs ≤ limit ∧ Malformed cs ∧ .digit = reason := by
  unfold unsigned leading Malformed
  split
  · simp
  · next hne => rw [digits_eq_error_iff (Nat.zero_le limit), or_iff_right hne]

theorem Signed.readInt_eq_error_iff (h : Signed cs limit overflow behind) :
    readInt cs = .error reason ↔
      limit < leading behind ∧ overflow = reason ∨
        leading behind ≤ limit ∧ Malformed behind ∧ .digit = reason := by
  rw [← unsigned_eq_error_iff]
  cases h with
  | unsigned hplus hminus =>
      rw [readInt_of_unsigned hplus hminus]
      exact map_eq_error_iff
  | plus => exact map_eq_error_iff
  | minus =>
      -- Taking the digits for an integer is a step of its own, which does not fail.
      exact map_eq_error_iff.trans (bind_eq_error_iff.trans (or_iff_left nofun))

theorem exists_signed (hne : cs ≠ []) :
    ∃ limit overflow behind, Signed cs limit overflow behind := by
  obtain ⟨c, rest, rfl⟩ := List.exists_cons_of_ne_nil hne
  by_cases hplus : c = '+'
  · subst hplus
    exact ⟨_, _, _, Signed.plus rest⟩
  · by_cases hminus : c = '-'
    · subst hminus
      exact ⟨_, _, _, Signed.minus rest⟩
    · exact ⟨_, _, _, Signed.unsigned hplus hminus⟩

theorem ofInt_eq_error_iff {i : Int} :
    ofInt i = .error reason ↔ (i < 1 ∨ 4294967295 < i) ∧ .outside i = reason := by
  have hmax : ListParams.maxCount = 4294967295 := rfl
  unfold ofInt
  split
  · next h => exact iff_of_false nofun fun hout => by omega
  · next h =>
    rw [Except.error.injEq, and_iff_right]
    omega

theorem parse_eq_error_iff {text : String} :
    parse text = .error reason ↔ Refuses text.toList reason := by
  unfold parse
  rw [bind_eq_error_iff]
  constructor
  · rintro (hread | ⟨i, hread, hcount⟩)
    · by_cases hempty : text.toList = []
      · rw [hempty] at hread ⊢
        obtain rfl := Except.error.inj hread
        exact .empty rfl
      · obtain ⟨limit, overflow, behind, hsign⟩ := exists_signed hempty
        rcases hsign.readInt_eq_error_iff.mp hread with ⟨hlarge, rfl⟩ | ⟨hfits, hmalformed, rfl⟩
        · exact .overflow hsign hlarge
        · exact .digit hsign hfits hmalformed
    · obtain ⟨hout, rfl⟩ := ofInt_eq_error_iff.mp hcount
      obtain ⟨hwrites, hlow, hhigh⟩ := writes_of_readInt hread
      exact .outside hwrites hlow hhigh hout
  · intro h
    cases h with
    | empty hempty => exact .inl (by rw [hempty]; rfl)
    | overflow hsign hlarge => exact .inl (hsign.readInt_eq_error_iff.mpr (.inl ⟨hlarge, rfl⟩))
    | digit hsign hfits hmalformed =>
        exact .inl (hsign.readInt_eq_error_iff.mpr (.inr ⟨hfits, hmalformed, rfl⟩))
    | outside hwrites hlow hhigh hout =>
        exact .inr ⟨_, readInt_of_writes hwrites hlow hhigh, ofInt_eq_error_iff.mpr ⟨hout, rfl⟩⟩

end

end Roster.Count
