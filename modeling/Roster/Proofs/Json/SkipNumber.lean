import Roster.Json.Reader.Skip
/-!
# Numbers that are passed over

A number that is read is passed over up to the same place. Its digits are skipped without counting
them, so a number that is too large to be read is passed over as well.
-/

namespace Roster.Json

variable {text rest : Bytes} {positive : Bool} {significand : Nat} {exponent start : Int}
  {n : Number}

theorem eq_of_realOfParts (h : realOfParts positive significand exponent text = .ok (n, rest)) :
    text = rest := by
  unfold realOfParts at h
  split at h
  · exact (Prod.mk.inj (Except.ok.inj h)).2
  · contradiction

/-- Digits follow the sign of an exponent. -/
theorem skipExponent_of_sign {negative : Bool} {d : UInt8} {after : Bytes}
    (hsign : (match text with
      | 43 :: rest => (false, rest)
      | 45 :: rest => (true, rest)
      | _ => (false, text)) = (negative, d :: after)) (hd : isDigit d) :
    skipExponent text = .ok ((d :: after).dropWhile isDigit) := by
  unfold skipExponent
  rw [List.dropWhile_cons_of_pos hd]
  split at hsign
  · obtain ⟨-, rfl⟩ := Prod.mk.inj hsign
    simp [hd]
  · obtain ⟨-, rfl⟩ := Prod.mk.inj hsign
    simp [hd]
  · obtain ⟨-, rfl⟩ := Prod.mk.inj hsign
    simp [hd]

theorem skipExponent_of_readExponent
    (h : readExponent positive significand start text = .ok (n, rest)) :
    skipExponent text = .ok rest := by
  revert h
  fun_cases readExponent positive significand start text with
  | case1 => intro h; contradiction
  | case2 => intro h; contradiction
  | case3 negative d after hdigit e spare hsign habsorb =>
    intro h
    rw [habsorb] at h
    rw [skipExponent_of_sign hsign (by simpa using hdigit), eq_of_realOfParts h]
  | case4 negative d after hdigit e hrange hsign habsorb =>
    intro h
    rw [habsorb] at h
    dsimp only at h
    rw [if_pos hrange] at h
    contradiction
  | case5 negative d after hdigit e hrange hsign habsorb =>
    intro h
    rw [habsorb] at h
    dsimp only at h
    rw [if_neg hrange] at h
    rw [skipExponent_of_sign hsign (by simpa using hdigit)]
    exact congrArg Except.ok (Prod.mk.inj (Except.ok.inj h)).2

theorem skipScale_of_not_exponent (hlower : ∀ t, text ≠ 101 :: t) (hupper : ∀ t, text ≠ 69 :: t) :
    skipScale text = .ok text := by
  unfold skipScale
  split
  · exact absurd rfl (hlower _)
  · exact absurd rfl (hupper _)
  · rfl

theorem skipScale_of_readScale
    (h : readScale positive significand exponent text = .ok (n, rest)) :
    skipScale text = .ok rest := by
  unfold readScale at h
  split at h
  · exact skipExponent_of_readExponent h
  · exact skipExponent_of_readExponent h
  · next hlower hupper => rw [skipScale_of_not_exponent hlower hupper, eq_of_realOfParts h]

theorem skipFraction_of_not_point (h : ∀ t, text ≠ 46 :: t) :
    skipFraction text = skipScale text := by
  unfold skipFraction
  split
  · exact absurd rfl (h _)
  · rfl

theorem skipFraction_of_readFraction
    (h : readFraction positive significand exponent text = .ok (n, rest)) :
    skipFraction (46 :: text) = .ok rest := by
  unfold readFraction at h
  dsimp only at h
  split at h
  · split at h
    · contradiction
    · contradiction
  next hempty =>
  cases text with
  | nil => exact absurd rfl hempty
  | cons d after =>
    have hd : isDigit d := by
      refine Decidable.byContradiction fun hd => hempty ?_
      rw [List.takeWhile_cons_of_neg hd]
      rfl
    rw [List.dropWhile_cons_of_pos hd] at h
    unfold skipFraction
    simp only [hd, if_true]
    exact skipScale_of_readScale h

/-- What is read as a number is passed over, up to the same place. -/
theorem skipNumber_of_readNumber (h : readNumber positive text = .ok (n, rest)) :
    skipNumber text = .ok rest := by
  cases text with
  | nil => contradiction
  | cons d after =>
  unfold readNumber at h
  unfold skipNumber
  dsimp only at h ⊢
  split at h
  · next hzero =>
    rw [if_pos hzero]
    split at h
    · exact skipFraction_of_readFraction h
    · next e inner hpoint =>
      split at h
      · contradiction
      next hdigit =>
      change (if isDigit e then _ else skipFraction (e :: inner)) = _
      rw [if_neg hdigit, skipFraction_of_not_point fun t heq => hpoint (List.cons.inj heq).1]
      split at h
      · next hexponent =>
        rcases hexponent with rfl | rfl
        · exact skipExponent_of_readExponent h
        · exact skipExponent_of_readExponent h
      · next hexponent =>
        obtain ⟨hlower, hupper⟩ := not_or.mp hexponent
        rw [skipScale_of_not_exponent (fun t heq => hlower (List.cons.inj heq).1)
          fun t heq => hupper (List.cons.inj heq).1, (Prod.mk.inj (Except.ok.inj h)).2]
    · exact congrArg Except.ok (Prod.mk.inj (Except.ok.inj h)).2
  next hzero =>
  rw [if_neg hzero]
  split at h
  · next hd =>
    rw [if_pos hd]
    rw [List.dropWhile_cons_of_pos hd] at h
    split at h
    · next hrest =>
      rw [hrest]
      exact skipFraction_of_readFraction h
    · next hrest =>
      rw [hrest]
      exact skipExponent_of_readExponent h
    · next hrest =>
      rw [hrest]
      exact skipExponent_of_readExponent h
    · next hpoint hlower hupper =>
      rw [skipFraction_of_not_point hpoint, skipScale_of_not_exponent hlower hupper]
      split at h
      · exact congrArg Except.ok (Prod.mk.inj (Except.ok.inj h)).2
      · rw [eq_of_realOfParts h]
  · contradiction

end Roster.Json
