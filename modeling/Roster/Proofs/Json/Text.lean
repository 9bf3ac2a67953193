import Roster.Json.Printer
import Roster.Json.Reader.Text
import Roster.Proofs.Text.Utf8
/-!
# Strings that were written are read back

Each character is read back from what stands for it, whether that is an escape or its bytes, so a
string is read back whole, up to the quote behind it.
-/

namespace Roster.Json

open Url

variable {fuel : Nat} {rest after : Bytes} {cs : List Char}

/-! ### Bytes of ASCII -/

/-- Characters that each have a byte of their own. -/
def IsAscii (s : List Char) : Prop := ∀ c ∈ s, c.toNat < 0x80

theorem utf8_of_ascii {s : List Char} (hs : IsAscii s) : utf8 s = s.map byte := by
  induction s with
  | nil => rfl
  | cons c rest ih =>
      rw [utf8_cons, utf8EncodeChar_of_ascii (hs c List.mem_cons_self),
        ih fun d hd => hs d (List.mem_cons_of_mem c hd)]
      rfl

/-! ### One character -/

theorem readTextUpTo_escape {text : Bytes} {c : Char} (hescape : readEscape text = .ok (c, rest))
    (h : readTextUpTo fuel rest = .ok (cs, after)) :
    readTextUpTo (fuel + 1) (92 :: text) = .ok (c :: cs, after) := by
  unfold readTextUpTo
  change (if (92 : UInt8) = 34 then _ else if (92 : UInt8) = 92 then _ else _) = _
  rw [if_neg (by decide), if_pos rfl, hescape]
  change (readTextUpTo fuel rest >>= _) = _
  rw [h]
  rfl

theorem readEscape_short {b : UInt8} {c : Char} (hshort : shortEscape? b = some c)
    (hunit : b ≠ 117) : readEscape (b :: rest) = .ok (c, rest) := by
  unfold readEscape
  split
  · contradiction
  · next heq => exact absurd (List.cons.inj heq).1 hunit
  · next heq =>
    obtain ⟨rfl, rfl⟩ := List.cons.inj heq
    rw [hshort]

theorem hexValue?_digitChar : ∀ d < 16, hexValue? (byte (Nat.digitChar d)) = some d := by decide

theorem digitChar_ascii : ∀ d < 16, (Nat.digitChar d).toNat < 0x80 := by decide

theorem readEscape_control {n : Nat} (hn : n < 0x20) :
    readEscape (117 :: 48 :: 48 :: byte (Nat.digitChar (n / 16)) ::
      byte (Nat.digitChar (n % 16)) :: rest) = .ok (Char.ofNat n, rest) := by
  have hunit : readUnit (48 :: 48 :: byte (Nat.digitChar (n / 16)) ::
      byte (Nat.digitChar (n % 16)) :: rest) = .ok (n, rest) := by
    have hzero : hexValue? 48 = some 0 := by decide
    simp only [readUnit, hzero, hexValue?_digitChar _ (show n / 16 < 16 by omega),
      hexValue?_digitChar _ (show n % 16 < 16 by omega)]
    congr 2
    omega
  change readCodePoint _ = _
  unfold readCodePoint
  rw [hunit]
  change (if _ then _ else _) = _
  rw [if_neg (by omega), if_pos (by omega)]

theorem readTextUpTo_plain {c : Char} (hquote : c ≠ '"') (hslash : c ≠ '\\')
    (hcontrol : ¬c.toNat < 0x20) (h : readTextUpTo fuel rest = .ok (cs, after)) :
    readTextUpTo (fuel + 1) (String.utf8EncodeChar c ++ rest) = .ok (c :: cs, after) := by
  have htake := Text.Utf8.takeChar?_utf8EncodeChar c rest
  obtain ⟨b, tail, hc, hb⟩ := Text.Utf8.utf8EncodeChar_eq_cons c
  rw [hc, List.cons_append] at htake ⊢
  have hbyte : ∀ d : Char, d.toNat < 0x80 → c ≠ d → b.toNat ≠ d.toNat := by
    intro d hd hne heq
    apply hne
    rw [← Char.ofNat_toNat c, ← Char.ofNat_toNat d]
    congr 1
    omega
  have hquote' : b ≠ 34 := fun heq => hbyte '"' (by decide) hquote (by rw [heq]; rfl)
  have hslash' : b ≠ 92 := fun heq => hbyte '\\' (by decide) hslash (by rw [heq]; rfl)
  have hcontrol' : ¬b < 32 := by
    rw [UInt8.lt_iff_toNat_lt]
    change ¬b.toNat < 32
    omega
  unfold readTextUpTo
  simp only
  rw [if_neg hquote', if_neg hslash', if_neg hcontrol', htake]
  change (readTextUpTo fuel rest >>= _) = _
  rw [h]
  rfl

/-- A character that was written comes first in what is read. -/
theorem readTextUpTo_escapeChar (c : Char) (h : readTextUpTo fuel rest = .ok (cs, after)) :
    readTextUpTo (fuel + 1) (utf8 (escapeChar c) ++ rest) = .ok (c :: cs, after) := by
  have hshort : ∀ (d : Char) (b : UInt8), utf8 ['\\', d] = [92, b] → shortEscape? b = some c →
      b ≠ 117 → readTextUpTo (fuel + 1) (utf8 ['\\', d] ++ rest) = .ok (c :: cs, after) := by
    intro d b hbytes hescape hunit
    rw [hbytes]
    exact readTextUpTo_escape (readEscape_short hescape hunit) h
  unfold escapeChar
  split
  · next hc => exact hshort '"' 34 rfl (hc ▸ rfl) (by decide)
  split
  · next hc => exact hshort '\\' 92 rfl (hc ▸ rfl) (by decide)
  split
  · next hc => exact hshort 'b' 98 rfl (hc ▸ rfl) (by decide)
  split
  · next hc => exact hshort 'f' 102 rfl (hc ▸ rfl) (by decide)
  split
  · next hc => exact hshort 'n' 110 rfl (hc ▸ rfl) (by decide)
  split
  · next hc => exact hshort 'r' 114 rfl (hc ▸ rfl) (by decide)
  split
  · next hc => exact hshort 't' 116 rfl (hc ▸ rfl) (by decide)
  split
  · next hcontrol =>
    have hhigh := utf8EncodeChar_of_ascii (digitChar_ascii (c.toNat / 16) (by omega))
    have hlow := utf8EncodeChar_of_ascii (digitChar_ascii (c.toNat % 16) (by omega))
    have hescape := @readEscape_control rest _ hcontrol
    rw [Char.ofNat_toNat] at hescape
    simp only [utf8_cons, utf8_nil, hhigh, hlow, List.append_nil]
    exact readTextUpTo_escape hescape h
  · next hquote hslash _ _ _ _ _ hcontrol =>
    rw [utf8_cons, utf8_nil, List.append_nil]
    exact readTextUpTo_plain hquote hslash hcontrol h

/-! ### Strings -/

theorem escapeChar_ne_nil (c : Char) : escapeChar c ≠ [] := by
  unfold escapeChar
  repeat' split
  all_goals simp

theorem length_le_length_escaped (s : List Char) :
    s.length ≤ (utf8 (s.flatMap escapeChar)).length := by
  refine Nat.le_trans ?_ (length_le_length_utf8 _)
  induction s with
  | nil => simp
  | cons c rest ih =>
      have hpos := List.length_pos_iff.mpr (escapeChar_ne_nil c)
      simp only [List.flatMap_cons, List.length_append, List.length_cons]
      omega

theorem readTextUpTo_escaped (s : List Char) (hfuel : s.length < fuel) :
    readTextUpTo fuel (utf8 (s.flatMap escapeChar) ++ 34 :: rest) = .ok (s, rest) := by
  induction s generalizing fuel with
  | nil =>
      obtain ⟨n, rfl⟩ := Nat.exists_eq_add_of_lt hfuel
      rfl
  | cons c s ih =>
      obtain ⟨n, rfl⟩ := Nat.exists_eq_add_of_lt hfuel
      rw [List.flatMap_cons, utf8_append, List.append_assoc]
      exact readTextUpTo_escapeChar c (ih (by simp only [List.length_cons]; omega))

theorem utf8_printText (s : String) :
    utf8 (printText s) = 34 :: (utf8 (s.toList.flatMap escapeChar) ++ [34]) := by
  rw [printText, List.cons_append, utf8_cons, utf8_append]
  rfl

/-- A string is read back, past its opening quote and up to its closing one. -/
theorem readText_escaped (s : String) (rest : Bytes) :
    readText (utf8 (s.toList.flatMap escapeChar) ++ 34 :: rest) = .ok (s, rest) := by
  have hlength := length_le_length_escaped s.toList
  unfold readText
  rw [readTextUpTo_escaped s.toList (by simp only [List.length_append, List.length_cons]; omega)]
  change Except.ok (String.ofList s.toList, rest) = _
  rw [String.ofList_toList]

end Roster.Json
