import Roster.Proofs.Json.Layout
import Roster.Yaml.Resolved
/-!
# Words that YAML reads as something else

What is written for null, for a boolean and for an integer of 64 bits is a text that would be quoted
if it were a string. For integers this takes reading their digits: they have no zero in front, and
the number that they make up fits in the 128 bits which YAML has for one.
-/

namespace Roster.Yaml

open Json (IsWord maxWord printNumber printNumber_ofNat printNumber_neg int_eq_ofNat_or_neg
  toDigits_eq_cons)

/-! ### Digits are read back -/

section

variable {base : Nat}

/-- Digits of a base, however they look, are read as the number that they were written for. -/
theorem foldl_toDigits (hbase : 1 < base) (look : Char → Char)
    (hlook : ∀ d < base, digitIn? base (look d.digitChar) = some d) (n : Nat) :
    ((Nat.toDigits base n).map look).foldl
      (fun n c => do some ((← n) * base + (← digitIn? base c))) (some 0) = some n := by
  induction n using Nat.strongRecOn with
  | ind n ih =>
      by_cases hn : n < base
      · simp [Nat.toDigits_of_lt_base hn, hlook n hn]
      · have hless : n / base < n := Nat.div_lt_self (by omega) hbase
        rw [Nat.toDigits_of_base_le hbase (by omega), List.map_append, List.foldl_append,
          ih _ hless]
        simp [hlook (n % base) (Nat.mod_lt n (by omega)), Nat.div_add_mod']

theorem digitIn?_decimal : ∀ d < 10, digitIn? 10 d.digitChar = some d := by decide

theorem natIn?_decimal (n : Nat) : natIn? 10 (Nat.toDigits 10 n) = some n := by
  have hread := foldl_toDigits (by decide) id digitIn?_decimal n
  rw [List.map_id] at hread
  rw [natIn?, if_neg (by simp [Nat.toDigits_ne_nil]), hread]

end

/-! ### Integers -/

theorem isDigit_of_mem {n : Nat} {c : Char} (hc : c ∈ Nat.toDigits 10 n) : c.isDigit :=
  Nat.isDigit_of_mem_toDigits (by decide) (by decide) hc

/-- Nothing but a digit stands in front. -/
theorem toDigits_ne_cons {n : Nat} {c : Char} (hc : c.isDigit = false) (rest : List Char) :
    Nat.toDigits 10 n ≠ c :: rest := by
  intro heq
  have hdigit := isDigit_of_mem (n := n) (c := c) (by simp [heq])
  rw [hc] at hdigit
  contradiction

theorem not_isPaddedDigits (n : Nat) : isPaddedDigits (Nat.toDigits 10 n) = false := by
  have hminus := @toDigits_ne_cons n '-' (by decide)
  have hplus := @toDigits_ne_cons n '+' (by decide)
  rcases Nat.eq_zero_or_pos n with rfl | hn
  · rfl
  obtain ⟨c, rest, hdigits, hc⟩ := toDigits_eq_cons hn
  rw [hdigits] at hminus hplus ⊢
  unfold isPaddedDigits
  split
  · next heq => exact absurd heq (hminus _)
  · next heq => exact absurd heq (hplus _)
  · dsimp only
    split
    · next heq => exact absurd (List.cons.inj heq).1 hc
    · rfl

theorem isMagnitude_toDigits {bound n : Nat} (hn : n ≤ bound) :
    isMagnitude bound (Nat.toDigits 10 n) = true := by
  -- The mark of another base is no digit.
  have hmark : ∀ {c d : Char} {rest : List Char}, Nat.toDigits 10 n = c :: d :: rest →
      d.isDigit := fun heq => isDigit_of_mem (n := n) (by simp [heq])
  unfold isMagnitude
  split
  · next heq => exact absurd (hmark heq) (by decide)
  · next heq => exact absurd (hmark heq) (by decide)
  · next heq => exact absurd (hmark heq) (by decide)
  · simp [fits, natIn?_decimal, hn, not_isPaddedDigits]

/-- What is written for an integer of 64 bits is quoted when it is a string. -/
theorem isInteger_printNumber {i : Int} (hword : IsWord i) :
    isInteger (printNumber (.int i)) = true := by
  obtain ⟨hlow, hhigh⟩ := hword
  unfold maxWord at hhigh
  rcases int_eq_ofNat_or_neg i with ⟨n, rfl⟩ | ⟨n, hn, rfl⟩
  · rw [printNumber_ofNat]
    unfold isInteger
    split
    · next heq => exact absurd heq (toDigits_ne_cons (by decide) _)
    · next heq => exact absurd heq (toDigits_ne_cons (by decide) _)
    · apply isMagnitude_toDigits
      change n ≤ 340282366920938463463374607431768211455
      omega
  · rw [printNumber_neg hn]
    apply isMagnitude_toDigits
    change n ≤ 170141183460469231731687303715884105728
    omega

end Roster.Yaml
