import Roster.Proofs.Json.Text
import Roster.Proofs.Text.Ascii
import Roster.Json.Reader.Number
/-!
# Integers that were written are read back

An integer that fits in 64 bits, signed or unsigned, is read back from its decimal digits when what
follows does not go on with the number.
-/

namespace Roster.Json

open Url

/-- What follows is no part of a number. -/
def EndsNumber : Bytes → Prop
  | [] => True
  | b :: _ => isDigit b = false ∧ b ≠ 46 ∧ b ≠ 101 ∧ b ≠ 69

/-! ### Digits -/

theorem toNat_of_isDigit {c : Char} (hc : c.isDigit) : 48 ≤ c.toNat ∧ c.toNat ≤ 57 := by
  simp only [Char.isDigit, Bool.and_eq_true, decide_eq_true_eq] at hc
  exact hc

theorem isDigit_byte {c : Char} (hc : c.isDigit) : isDigit (byte c) = true := by
  have hrange := toNat_of_isDigit hc
  have hbyte : (byte c).toNat = c.toNat := by
    change c.toNat % 256 = c.toNat
    omega
  simp only [isDigit, Bool.and_eq_true, decide_eq_true_eq, UInt8.le_iff_toNat_le, hbyte]
  exact hrange

theorem ne_of_isDigit {b : UInt8} (hb : isDigit b = true) {c : UInt8} (hc : isDigit c = false) :
    b ≠ c := by
  rintro rfl
  rw [hb] at hc
  contradiction

theorem digitValue_byte {c : Char} (hc : c.isDigit) :
    digitValue (byte c) = c.toNat - '0'.toNat := by
  have hrange := toNat_of_isDigit hc
  have hbyte : (byte c).toNat = c.toNat := by
    change c.toNat % 256 = c.toNat
    omega
  rw [digitValue, hbyte]
  rfl

/-- The digits of a number as bytes. -/
def digitBytes (n : Nat) : Bytes := (Nat.toDigits 10 n).map byte

theorem isDigit_of_mem_digitBytes {n : Nat} {b : UInt8} (hb : b ∈ digitBytes n) :
    isDigit b = true := by
  obtain ⟨c, hc, rfl⟩ := List.mem_map.mp hb
  exact isDigit_byte (Nat.isDigit_of_mem_toDigits (by decide) (by decide) hc)

theorem utf8_toDigits (n : Nat) : utf8 (Nat.toDigits 10 n) = digitBytes n := by
  apply utf8_of_ascii
  intro c hc
  have hrange := toNat_of_isDigit (Nat.isDigit_of_mem_toDigits (by decide) (by decide) hc)
  omega

/-- Digits are absorbed as long as the number that they make up fits. -/
theorem absorb_map_byte {s : List Char} (hs : ∀ c ∈ s, c.isDigit) {n : Nat}
    (hfits : Nat.ofDigitChars 10 s n ≤ maxWord) :
    absorb n (s.map byte) = (Nat.ofDigitChars 10 s n, []) := by
  induction s generalizing n with
  | nil => rfl
  | cons c rest ih =>
      have hnext : n * 10 + digitValue (byte c) = 10 * n + (c.toNat - '0'.toNat) := by
        rw [digitValue_byte (hs c List.mem_cons_self), Nat.mul_comm]
      rw [Nat.ofDigitChars_cons] at hfits ⊢
      have hgrows := Nat.le_trans (Text.le_ofDigitChars rest _) hfits
      rw [List.map_cons, absorb, hnext]
      change (if _ then _ else _) = _
      rw [if_pos hgrows]
      exact ih (fun d hd => hs d (List.mem_cons_of_mem c hd)) hfits

theorem absorb_digitBytes {n : Nat} (hn : n ≤ maxWord) : absorb 0 (digitBytes n) = (n, []) := by
  have hdigits : ∀ c ∈ Nat.toDigits 10 n, c.isDigit := fun c hc =>
    Nat.isDigit_of_mem_toDigits (by decide) (by decide) hc
  rw [digitBytes, absorb_map_byte hdigits (by rwa [Nat.ofDigitChars_ten_toDigits]),
    Nat.ofDigitChars_ten_toDigits]

/-- Only zero is written with a zero in front. -/
theorem toDigits_eq_cons {n : Nat} (hn : 0 < n) :
    ∃ c rest, Nat.toDigits 10 n = c :: rest ∧ c ≠ '0' := by
  induction n using Nat.strongRecOn with
  | ind n ih =>
      by_cases hsmall : n < 10
      · refine ⟨n.digitChar, [], Nat.toDigits_of_lt_base hsmall, ?_⟩
        rw [ne_eq, Nat.digitChar_eq_zero]
        omega
      · obtain ⟨c, rest, hdigits, hc⟩ := ih (n / 10) (by omega) (by omega)
        rw [Nat.toDigits_of_base_le (by decide) (by omega), hdigits]
        exact ⟨c, _, rfl, hc⟩

theorem digitBytes_eq_cons {n : Nat} (hn : 0 < n) :
    ∃ b rest, digitBytes n = b :: rest ∧ b ≠ 48 := by
  obtain ⟨c, rest, hdigits, hc⟩ := toDigits_eq_cons hn
  have hdigit : c.isDigit :=
    Nat.isDigit_of_mem_toDigits (b := 10) (n := n) (by decide) (by decide) (by simp [hdigits])
  refine ⟨byte c, rest.map byte, by rw [digitBytes, hdigits]; rfl, fun heq => hc ?_⟩
  have hrange := toNat_of_isDigit hdigit
  have hbyte : c.toNat % 256 = 48 := congrArg UInt8.toNat heq
  rw [← Char.ofNat_toNat c, show c.toNat = 48 by omega]

/-! ### Numbers -/

theorem takeWhile_digitBytes (n : Nat) {rest : Bytes} (hrest : EndsNumber rest) :
    (digitBytes n ++ rest).takeWhile isDigit = digitBytes n := by
  rw [List.takeWhile_append_of_pos fun b hb => isDigit_of_mem_digitBytes hb]
  cases rest with
  | nil => simp
  | cons b after => simp [hrest.1]

theorem dropWhile_digitBytes (n : Nat) {rest : Bytes} (hrest : EndsNumber rest) :
    (digitBytes n ++ rest).dropWhile isDigit = rest := by
  rw [List.dropWhile_append_of_pos fun b hb => isDigit_of_mem_digitBytes hb]
  cases rest with
  | nil => simp
  | cons b after => simp [hrest.1]

theorem readNumber_zero (positive : Bool) {rest : Bytes} (hrest : EndsNumber rest) :
    readNumber positive (48 :: rest) = .ok (wholeNumber positive 0, rest) := by
  unfold readNumber
  change (if (48 : UInt8) = 48 then _ else _) = _
  rw [if_pos rfl]
  cases rest with
  | nil => rfl
  | cons b after =>
      obtain ⟨hdigit, hpoint, hlower, hupper⟩ := hrest
      split
      · next heq => exact absurd (List.cons.inj heq).1 hpoint
      · next heq =>
        obtain ⟨rfl, rfl⟩ := List.cons.inj heq
        rw [if_neg (by simp [hdigit]), if_neg (by simp [hlower, hupper])]
      · contradiction

/-- The number that some digits make up is read as long as it fits. -/
theorem readNumber_digitBytes (positive : Bool) {n : Nat} (hn : n ≤ maxWord) {rest : Bytes}
    (hrest : EndsNumber rest) :
    readNumber positive (digitBytes n ++ rest) = .ok (wholeNumber positive n, rest) := by
  rcases Nat.eq_zero_or_pos n with rfl | hpos
  · exact readNumber_zero positive hrest
  obtain ⟨b, digits, hdigits, hb⟩ := digitBytes_eq_cons hpos
  have hdigit : isDigit b = true := isDigit_of_mem_digitBytes (n := n) (by simp [hdigits])
  have htake := takeWhile_digitBytes n hrest
  have hdrop := dropWhile_digitBytes n hrest
  rw [hdigits, List.cons_append] at htake hdrop ⊢
  unfold readNumber
  change (if b = 48 then _ else if isDigit b = true then _ else _) = _
  rw [if_neg hb, if_pos hdigit, htake, hdrop, ← hdigits, absorb_digitBytes hn]
  cases rest with
  | nil => rfl
  | cons e after =>
      obtain ⟨-, hpoint, hlower, hupper⟩ := hrest
      dsimp only
      split
      · next heq => exact absurd (List.cons.inj heq).1 hpoint
      · next heq => exact absurd (List.cons.inj heq).1 hlower
      · next heq => exact absurd (List.cons.inj heq).1 hupper
      · rfl

/-! ### Integers -/

/-- The integers of 64 bits, signed or unsigned. -/
def IsWord (i : Int) : Prop := -9223372036854775808 ≤ i ∧ i ≤ maxWord

theorem printNumber_ofNat (n : Nat) : printNumber (.int n) = Nat.toDigits 10 n := by
  rw [printNumber, Int.toString_eq_repr, Int.repr_eq_if, if_pos (by omega), Nat.toList_repr,
    Int.toNat_natCast]

theorem printNumber_neg {n : Nat} (hn : 0 < n) :
    printNumber (.int (-n)) = '-' :: Nat.toDigits 10 n := by
  rw [printNumber, Int.toString_eq_repr, Int.repr_eq_if, if_neg (by omega), String.toList_append,
    Nat.toList_repr, Int.neg_neg, Int.toNat_natCast]
  rfl

end Roster.Json
