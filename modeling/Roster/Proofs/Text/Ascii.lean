/-!
# Characters of ASCII

Letters and digits are those of ASCII, and characters of ASCII are told apart by their bytes. Reading
on in decimal never makes a number smaller.
-/

namespace Roster.Text

theorem lt_of_isAlphanum {c : Char} (h : c.isAlphanum) : c.toNat < 128 := by
  have hupper : c.isUpper → c.val ≤ 90 := fun h => (of_decide_eq_true h).2
  have hlower : c.isLower → c.val ≤ 122 := fun h => of_decide_eq_true (Bool.and_eq_true_iff.mp h).2
  have hdigit : c.isDigit → c.val ≤ 57 := fun h => of_decide_eq_true (Bool.and_eq_true_iff.mp h).2
  have hval : c.toNat = c.val.toNat := rfl
  rw [hval]
  rcases Bool.or_eq_true_iff.mp h with halpha | hc
  · rcases Bool.or_eq_true_iff.mp halpha with hc | hc
    · exact Nat.lt_of_le_of_lt (UInt32.le_iff_toNat_le.mp (hupper hc)) (by decide)
    · exact Nat.lt_of_le_of_lt (UInt32.le_iff_toNat_le.mp (hlower hc)) (by decide)
  · exact Nat.lt_of_le_of_lt (UInt32.le_iff_toNat_le.mp (hdigit hc)) (by decide)

-- To decide a statement about the members of a list, Lean may try all characters; this tries the list.
theorem forall_mem_of_all {chars : List Char} {p : Char → Prop} [DecidablePred p]
    (h : chars.all (p ·)) : ∀ c ∈ chars, p c :=
  fun c hc => of_decide_eq_true (List.all_eq_true.mp h c hc)

theorem toUInt8_ne_of_ne {c d : Char} (hc : c.toNat < 128) (hd : d.toNat < 128) (h : c ≠ d) :
    c.toNat.toUInt8 ≠ d.toNat.toUInt8 := by
  intro hsame
  have hnat := congrArg UInt8.toNat hsame
  simp only [Nat.toUInt8, UInt8.toNat_ofNat'] at hnat
  rw [Nat.mod_eq_of_lt (by omega), Nat.mod_eq_of_lt (by omega)] at hnat
  exact h (Char.toNat_inj.mp hnat)

theorem le_ofDigitChars (s : List Char) (n : Nat) : n ≤ Nat.ofDigitChars 10 s n := by
  rw [Nat.ofDigitChars_eq_ofDigitChars_zero]
  exact Nat.le_add_right_of_le (Nat.le_mul_of_pos_left n (Nat.pow_pos (by decide)))

end Roster.Text
