import Roster.Json.Reader.Skip
import Roster.Proofs.Json.Text
import Roster.Proofs.Outcome
/-!
# Strings that are passed over

A string that is read is UTF-8 up to its closing quote. It is passed over up to the same place, one
byte or one escape at a time; that asks for no UTF-8, so more is passed over than is read.
-/

namespace Roster.Json

open Url

variable {text rest : Bytes} {fuel : Nat}

/-! ### Strings are UTF-8 -/

theorem badBytes_ne_ok {α : Type} (a : α) : badBytes text ≠ .ok a := by
  unfold badBytes
  split
  · exact nofun
  · split <;> exact nofun

theorem exists_utf8_of_ascii {bs : Bytes} (h : ∀ b ∈ bs, b.toNat < 0x80) : ∃ s, utf8 s = bs := by
  refine ⟨bs.map fun b => Char.ofNat b.toNat, ?_⟩
  have hchar : ∀ b ∈ bs, (Char.ofNat b.toNat).toNat = b.toNat := by
    intro b hb
    have hb := h b hb
    rw [Char.ofNat, dif_pos (.inl (by omega))]
    rfl
  rw [utf8_of_ascii, List.map_map]
  · refine (List.map_congr_left fun b hb => ?_).trans (List.map_id bs)
    rw [Function.comp_apply, byte, hchar b hb]
    simp
  · intro c hc
    obtain ⟨b, hb, rfl⟩ := List.mem_map.mp hc
    rw [hchar b hb]
    exact h b hb

theorem ascii_of_hexValue? {b : UInt8} {n : Nat} (h : hexValue? b = some n) : b.toNat < 0x80 := by
  unfold hexValue? at h
  simp only [isDigit, Bool.and_eq_true, decide_eq_true_eq, UInt8.le_iff_toNat_le] at h
  simp at h
  grind

theorem ascii_of_readUnit {n : Nat} (h : readUnit text = .ok (n, rest)) :
    ∃ bs, text = bs ++ rest ∧ ∀ b ∈ bs, b.toNat < 0x80 := by
  unfold readUnit at h
  split at h
  · next a b c d after =>
    split at h
    · next ha hb hc hd =>
      obtain ⟨-, rfl⟩ := Prod.mk.inj (Except.ok.inj h)
      refine ⟨[a, b, c, d], rfl, ?_⟩
      simp [ascii_of_hexValue? ha, ascii_of_hexValue? hb, ascii_of_hexValue? hc,
        ascii_of_hexValue? hd]
    · contradiction
  · contradiction

theorem ascii_of_shortEscape? {b : UInt8} {c : Char} (h : shortEscape? b = some c) :
    b.toNat < 0x80 := by
  refine Decidable.byContradiction fun hb => ?_
  have hne : ∀ d : UInt8, d.toNat < 0x80 → b ≠ d := fun d hd heq => hb (heq ▸ hd)
  simp [shortEscape?, hne 34 (by decide), hne 92 (by decide), hne 47 (by decide),
    hne 98 (by decide), hne 102 (by decide), hne 110 (by decide), hne 114 (by decide),
    hne 116 (by decide)] at h

/-- An escape is written in ASCII. -/
theorem ascii_of_readEscape {c : Char} (h : readEscape text = .ok (c, rest)) :
    ∃ bs, text = bs ++ rest ∧ ∀ b ∈ bs, b.toNat < 0x80 := by
  unfold readEscape at h
  split at h
  · contradiction
  · next inner =>
    unfold readCodePoint at h
    obtain ⟨⟨n, after⟩, hunit, h⟩ := bind_eq_ok_iff.mp h
    obtain ⟨first, hunit, hfirst⟩ := ascii_of_readUnit hunit
    dsimp only at h
    split at h
    · contradiction
    split at h
    · obtain ⟨-, rfl⟩ := Prod.mk.inj (Except.ok.inj h)
      exact ⟨117 :: first, by rw [hunit, List.cons_append],
        List.forall_mem_cons.mpr ⟨by decide, hfirst⟩⟩
    split at h
    · contradiction
    · contradiction
    · obtain ⟨⟨low, last⟩, hlow, h⟩ := bind_eq_ok_iff.mp h
      obtain ⟨second, hlow, hsecond⟩ := ascii_of_readUnit hlow
      dsimp only at h
      split at h
      · contradiction
      · obtain ⟨-, rfl⟩ := Prod.mk.inj (Except.ok.inj h)
        refine ⟨117 :: (first ++ 92 :: 117 :: second), by simp [hunit, hlow], ?_⟩
        simp only [List.mem_cons, List.mem_append]
        rintro b (rfl | hb | rfl | rfl | hb)
        · decide
        · exact hfirst b hb
        · decide
        · decide
        · exact hsecond b hb
    · contradiction
    · contradiction
  · next b after _ =>
    split at h
    · next hshort =>
      obtain ⟨-, rfl⟩ := Prod.mk.inj (Except.ok.inj h)
      exact ⟨[b], rfl, List.forall_mem_singleton.mpr (ascii_of_shortEscape? hshort)⟩
    · contradiction

theorem exists_utf8_of_readTextUpTo {cs : List Char} (h : readTextUpTo fuel text = .ok (cs, rest)) :
    ∃ raw, text = utf8 raw ++ 34 :: rest := by
  induction fuel generalizing text cs with
  | zero => contradiction
  | succ fuel ih =>
    unfold readTextUpTo at h
    split at h
    · contradiction
    next b inner =>
    split at h
    · next hquote =>
      obtain ⟨-, rfl⟩ := Prod.mk.inj (Except.ok.inj h)
      exact ⟨[], by rw [hquote]; rfl⟩
    split at h
    · next hslash =>
      obtain ⟨⟨c, after⟩, hescape, h⟩ := bind_eq_ok_iff.mp h
      obtain ⟨⟨ds, last⟩, hread, heq⟩ := bind_eq_ok_iff.mp h
      obtain ⟨-, rfl⟩ := Prod.mk.inj (Except.ok.inj heq)
      obtain ⟨bs, rfl, hbs⟩ := ascii_of_readEscape hescape
      obtain ⟨escape, hutf8⟩ := exists_utf8_of_ascii
        (List.forall_mem_cons.mpr ⟨(by decide : (92 : UInt8).toNat < 0x80), hbs⟩)
      obtain ⟨raw, rfl⟩ := ih hread
      refine ⟨escape ++ raw, ?_⟩
      rw [utf8_append, hutf8, hslash]
      simp
    split at h
    · contradiction
    split at h
    · exact absurd h (badBytes_ne_ok _)
    · next c after htake =>
      obtain ⟨⟨ds, last⟩, hread, heq⟩ := bind_eq_ok_iff.mp h
      obtain ⟨-, rfl⟩ := Prod.mk.inj (Except.ok.inj heq)
      obtain ⟨raw, rfl⟩ := ih hread
      exact ⟨c :: raw, by rw [Text.Utf8.eq_of_takeChar? htake, utf8_cons, List.append_assoc]⟩

/-- What is read as a string is UTF-8 up to its closing quote. -/
theorem exists_utf8_of_readText {s : String} (h : readText text = .ok (s, rest)) :
    ∃ raw, text = utf8 raw ++ 34 :: rest := by
  obtain ⟨⟨cs, after⟩, hread, heq⟩ := bind_eq_ok_iff.mp h
  obtain ⟨-, rfl⟩ := Prod.mk.inj (Except.ok.inj heq)
  exact exists_utf8_of_readTextUpTo hread

/-! ### Strings are passed over -/

theorem skipTextUpTo_plain {bs : Bytes} (h : ∀ b ∈ bs, isPlain b) (fuel : Nat) (rest : Bytes) :
    skipTextUpTo (fuel + bs.length) (bs ++ rest) = skipTextUpTo fuel rest := by
  induction bs with
  | nil => rfl
  | cons b bs ih =>
      have hb := h b List.mem_cons_self
      simp only [isPlain, Bool.and_eq_true, decide_eq_true_eq, bne_iff_ne] at hb
      rw [List.length_cons, ← Nat.add_assoc, List.cons_append, skipTextUpTo, if_neg hb.1.2,
        if_neg hb.2, if_neg (UInt8.not_lt.mpr hb.1.1),
        ih fun c hc => h c (List.mem_cons_of_mem b hc)]

theorem length_of_readUnit {n : Nat} (h : readUnit text = .ok (n, rest)) :
    text.length = rest.length + 4 := by
  unfold readUnit at h
  split at h
  · split at h
    · obtain ⟨-, rfl⟩ := Prod.mk.inj (Except.ok.inj h)
      rfl
    · contradiction
  · contradiction

theorem skipTextUpTo_unit {n : Nat} (h : readUnit text = .ok (n, rest)) :
    skipTextUpTo (fuel + 1) (92 :: 117 :: text) = skipTextUpTo fuel rest := by
  rw [skipTextUpTo]
  change (skipEscape (117 :: text) >>= _) = _
  rw [skipEscape, h]
  rfl

/-- An escape is passed over as it is read, though its two halves are two steps. -/
theorem skipTextUpTo_of_readEscape {c : Char} (h : readEscape text = .ok (c, rest)) :
    ∃ steps, 0 < steps ∧ rest.length + steps ≤ text.length ∧
      ∀ fuel, skipTextUpTo (fuel + steps) (92 :: text) = skipTextUpTo fuel rest := by
  unfold readEscape at h
  split at h
  · contradiction
  · next unit =>
    unfold readCodePoint at h
    obtain ⟨⟨n, after⟩, hunit, h⟩ := bind_eq_ok_iff.mp h
    have hlength := length_of_readUnit hunit
    dsimp only at h
    split at h
    · contradiction
    split at h
    · obtain ⟨-, rfl⟩ := Prod.mk.inj (Except.ok.inj h)
      exact ⟨1, by omega, by simp only [List.length_cons]; omega,
        fun fuel => skipTextUpTo_unit hunit⟩
    split at h
    · contradiction
    · contradiction
    · next low =>
      obtain ⟨⟨m, last⟩, hlow, h⟩ := bind_eq_ok_iff.mp h
      have hlength' := length_of_readUnit hlow
      dsimp only at h
      split at h
      · contradiction
      · obtain ⟨-, rfl⟩ := Prod.mk.inj (Except.ok.inj h)
        refine ⟨2, by omega, by simp only [List.length_cons] at hlength ⊢; omega, fun fuel => ?_⟩
        rw [← Nat.add_assoc fuel 1 1, skipTextUpTo_unit hunit, skipTextUpTo_unit hlow]
    · contradiction
    · contradiction
  · next b after hunit =>
    split at h
    · next hshort =>
      obtain ⟨-, rfl⟩ := Prod.mk.inj (Except.ok.inj h)
      refine ⟨1, by omega, by simp, fun fuel => ?_⟩
      have hskip : skipEscape (b :: after) = .ok after := by
        unfold skipEscape
        split
        · contradiction
        · next heq => exact absurd (List.cons.inj heq).1 hunit
        · next heq =>
          obtain ⟨rfl, rfl⟩ := List.cons.inj heq
          rw [hshort]
          rfl
      rw [skipTextUpTo]
      change (skipEscape (b :: after) >>= _) = _
      rw [hskip]
      rfl
    · contradiction

theorem isPlain_of_mem_utf8EncodeChar {c : Char} {b : UInt8} {bs : Bytes}
    (hc : String.utf8EncodeChar c = b :: bs) (hb : isPlain b) :
    ∀ d ∈ String.utf8EncodeChar c, isPlain d := by
  intro d hd
  rw [hc] at hd
  rcases List.mem_cons.mp hd with rfl | hd
  · exact hb
  · have hhigh := Text.Utf8.le_of_mem_tail_utf8EncodeChar (c := c) (b := d) (by rw [hc]; exact hd)
    simp only [isPlain, Bool.and_eq_true, decide_eq_true_eq, bne_iff_ne, ne_eq,
      UInt8.le_iff_toNat_le, ← UInt8.toNat_inj]
    simp only [UInt8.reduceToNat]
    omega

/-- What is read as a string is passed over, up to the same place. -/
theorem skipTextUpTo_of_readTextUpTo {cs : List Char} (h : readTextUpTo fuel text = .ok (cs, rest))
    {steps : Nat} (hsteps : text.length < steps) : skipTextUpTo steps text = .ok rest := by
  induction fuel generalizing text cs steps with
  | zero => contradiction
  | succ fuel ih =>
      unfold readTextUpTo at h
      split at h
      · contradiction
      next b inner =>
      obtain ⟨n, rfl⟩ : ∃ n, steps = n + 1 := ⟨steps - 1, by omega⟩
      rw [List.length_cons] at hsteps
      split at h
      · next hb =>
        obtain ⟨-, rfl⟩ := Prod.mk.inj (Except.ok.inj h)
        rw [skipTextUpTo, if_pos hb]
      split at h
      · next hb =>
        subst hb
        obtain ⟨⟨c, after⟩, hescape, h⟩ := bind_eq_ok_iff.mp h
        obtain ⟨⟨ds, last⟩, hread, heq⟩ := bind_eq_ok_iff.mp h
        obtain ⟨-, rfl⟩ := Prod.mk.inj (Except.ok.inj heq)
        obtain ⟨taken, hpos, hlength, hskip⟩ := skipTextUpTo_of_readEscape hescape
        obtain ⟨m, hm⟩ : ∃ m, n + 1 = m + taken := ⟨n + 1 - taken, by omega⟩
        rw [hm, hskip]
        exact ih hread (by omega)
      split at h
      · contradiction
      next hquote hslash hcontrol =>
      split at h
      · exact absurd h (badBytes_ne_ok _)
      · next c after htake =>
        obtain ⟨⟨ds, last⟩, hread, heq⟩ := bind_eq_ok_iff.mp h
        obtain ⟨-, rfl⟩ := Prod.mk.inj (Except.ok.inj heq)
        have htext := Text.Utf8.eq_of_takeChar? htake
        obtain ⟨d, tail, hc, -⟩ := Text.Utf8.utf8EncodeChar_eq_cons c
        have hd : d = b := by
          rw [hc] at htext
          exact (List.cons.inj htext).1.symm
        have hplain : isPlain b := by
          simp [isPlain, hquote, hslash, UInt8.not_lt.mp hcontrol]
        have hlength := congrArg List.length htext
        rw [List.length_append, List.length_cons, hc, List.length_cons] at hlength
        obtain ⟨m, hm⟩ : ∃ m, n + 1 = m + (String.utf8EncodeChar c).length :=
          ⟨n + 1 - (String.utf8EncodeChar c).length, by rw [hc, List.length_cons]; omega⟩
        rw [htext, hm, skipTextUpTo_plain (isPlain_of_mem_utf8EncodeChar hc (hd ▸ hplain))]
        rw [hc, List.length_cons] at hm
        exact ih hread (by omega)

theorem skipText_of_readText {s : String} (h : readText text = .ok (s, rest)) :
    skipText text = .ok rest := by
  obtain ⟨⟨cs, after⟩, hread, heq⟩ := bind_eq_ok_iff.mp h
  obtain ⟨-, rfl⟩ := Prod.mk.inj (Except.ok.inj heq)
  exact skipTextUpTo_of_readTextUpTo hread (Nat.lt_succ_self _)

end Roster.Json
