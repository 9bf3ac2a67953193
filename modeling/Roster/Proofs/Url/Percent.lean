import Roster.Proofs.Text.Utf8
/-!
# Percent encoding is read back

A percent sign and the digits of a byte stand for that byte, whatever follows.
-/

namespace Roster.Url

theorem percentDecode_cons {b : UInt8} (hb : b ≠ 37) (rest : List UInt8) :
    percentDecode (b :: rest) = b :: percentDecode rest := by
  rw [percentDecode.eq_def]
  exact if_neg hb

theorem percentDecode_digits {x y : UInt8} {high low : Nat} (hx : hexDigit? x = some high)
    (hy : hexDigit? y = some low) (rest : List UInt8) :
    percentDecode (37 :: x :: y :: rest) = UInt8.ofNat (high * 16 + low) :: percentDecode rest := by
  rw [percentDecode.eq_def]
  simp only [hx, hy, if_pos]

theorem digitChar_lt : ∀ n < 16, (Nat.digitChar n).toUpper.toNat < 0x80 := by decide

theorem hexDigit?_digitChar :
    ∀ n < 16, hexDigit? (Nat.digitChar n).toUpper.toNat.toUInt8 = some n := by decide

theorem percentDecode_percentByte (b : UInt8) (rest : List UInt8) :
    percentDecode (utf8 (percentByte b) ++ rest) = b :: percentDecode rest := by
  have hb : b.toNat < 256 := b.toNat_lt
  have hhigh : b.toNat / 16 < 16 := by omega
  have hlow : b.toNat % 16 < 16 := by omega
  have hbytes : utf8 (percentByte b) = [37, (Nat.digitChar (b.toNat / 16)).toUpper.toNat.toUInt8,
      (Nat.digitChar (b.toNat % 16)).toUpper.toNat.toUInt8] := by
    have hpercent : String.utf8EncodeChar '%' = [37] := by decide
    simp [percentByte, utf8, hpercent, utf8EncodeChar_of_ascii (digitChar_lt _ hhigh),
      utf8EncodeChar_of_ascii (digitChar_lt _ hlow)]
  have hvalue : b.toNat / 16 * 16 + b.toNat % 16 = b.toNat := by omega
  rw [hbytes, List.cons_append, List.cons_append, List.cons_append, List.nil_append,
    percentDecode_digits (hexDigit?_digitChar _ hhigh) (hexDigit?_digitChar _ hlow), hvalue,
    UInt8.ofNat_toNat]

theorem forall_mem_percentByte {p : Char → Prop}
    (hdigits : ∀ n < 16, p (Nat.digitChar n).toUpper) (hpercent : p '%') {b : UInt8} :
    ∀ c ∈ percentByte b, p c := by
  have hb : b.toNat < 256 := b.toNat_lt
  simp only [percentByte, List.forall_mem_cons]
  exact ⟨hpercent, hdigits _ (by omega), hdigits _ (by omega), List.forall_mem_nil _⟩

/-- What holds of the characters that are kept, of digits and of the percent sign holds in all of an
encoded text. -/
theorem forall_mem_percentEncode {p : Char → Prop} {keep : Char → Bool} {s : List Char}
    (hkeep : ∀ c ∈ s, keep c → p c)
    (hdigits : ∀ n < 16, p (Nat.digitChar n).toUpper) (hpercent : p '%') :
    ∀ c ∈ percentEncode keep s, p c := by
  intro c hc
  obtain ⟨d, hd, hmem⟩ := List.mem_flatMap.mp hc
  unfold percentChar at hmem
  split at hmem
  · next hkept =>
    rw [List.mem_singleton.mp hmem]
    exact hkeep d hd hkept
  · obtain ⟨b, -, hb⟩ := List.mem_flatMap.mp hmem
    exact forall_mem_percentByte hdigits hpercent c hb

theorem percentDecode_percentBytes (bytes rest : List UInt8) :
    percentDecode (utf8 (bytes.flatMap percentByte) ++ rest) = bytes ++ percentDecode rest := by
  induction bytes with
  | nil => rfl
  | cons b bytes ih =>
      rw [List.flatMap_cons, utf8_append, List.append_assoc, percentDecode_percentByte, ih,
        List.cons_append]

end Roster.Url
