import Roster.Text.Utf8
import Roster.Url.Percent
/-!
# Characters through their bytes

A character is read back from the front of its UTF-8 form, whatever follows. The other way, what is
taken off is the form of what it is read as, so bytes are read as a text only if they are its form.
-/

namespace Roster.Text.Utf8

theorem tail?_ofNat {low high n : Nat} (hn : n < 64) (hlow : low ≤ n + 0x80)
    (hhigh : n + 0x80 ≤ high) : tail? low high (UInt8.ofNat (n + 0x80)) = some n := by
  have hb : (UInt8.ofNat (n + 0x80)).toNat = n + 0x80 := by
    rw [UInt8.toNat_ofNat']
    omega
  rw [tail?, hb, if_pos ⟨hlow, hhigh⟩, Nat.add_sub_cancel]

/-- A character stands at the front of its UTF-8 form, which has one to four bytes. -/
theorem takeChar?_utf8EncodeChar (c : Char) (rest : List UInt8) :
    takeChar? (String.utf8EncodeChar c ++ rest) = some (c, rest) := by
  have hvalid : c.val.toNat < 0xD800 ∨ 0xDFFF < c.val.toNat ∧ c.val.toNat < 0x110000 := c.valid
  have hc : ∀ n, n = c.val.toNat → Char.ofNat n = c := fun n hn => hn ▸ Char.ofNat_toNat c
  unfold String.utf8EncodeChar
  dsimp only
  generalize c.val.toNat = v at hvalid hc ⊢
  have hlead : ∀ n < 256, (UInt8.ofNat n).toNat = n := fun n hn => by
    rw [UInt8.toNat_ofNat', Nat.mod_eq_of_lt hn]
  split
  · have hlow := hlead v (by omega)
    simp only [List.cons_append, List.nil_append, takeChar?, hlow]
    rw [if_pos (by omega), hc v rfl]
  split
  · have ha := hlead (v / 64 % 0x20 + 0xc0) (by omega)
    have hx : tail? 0x80 0xBF (UInt8.ofNat (v % 0x40 + 0x80)) = some (v % 0x40) :=
      tail?_ofNat (by omega) (by omega) (by omega)
    simp only [List.cons_append, List.nil_append, takeChar?, ha]
    rw [if_neg (by omega), if_pos (by omega), hx]
    simp only [Option.bind_eq_bind, Option.bind_some]
    rw [hc _ (by omega)]
  split
  · have ha := hlead (v / 4096 % 0x10 + 0xe0) (by omega)
    have hx : tail? (if v / 4096 % 0x10 + 0xe0 = 0xE0 then 0xA0 else 0x80)
        (if v / 4096 % 0x10 + 0xe0 = 0xED then 0x9F else 0xBF)
        (UInt8.ofNat (v / 64 % 0x40 + 0x80)) = some (v / 64 % 0x40) :=
      tail?_ofNat (by omega) (by split <;> omega) (by split <;> omega)
    have hy : tail? 0x80 0xBF (UInt8.ofNat (v % 0x40 + 0x80)) = some (v % 0x40) :=
      tail?_ofNat (by omega) (by omega) (by omega)
    simp only [List.cons_append, List.nil_append, takeChar?, ha]
    rw [if_neg (by omega), if_neg (by omega), if_pos (by omega), hx, hy]
    simp only [Option.bind_eq_bind, Option.bind_some]
    rw [hc _ (by omega)]
  · have ha := hlead (v / 262144 % 0x08 + 0xf0) (by omega)
    have hx : tail? (if v / 262144 % 0x08 + 0xf0 = 0xF0 then 0x90 else 0x80)
        (if v / 262144 % 0x08 + 0xf0 = 0xF4 then 0x8F else 0xBF)
        (UInt8.ofNat (v / 4096 % 0x40 + 0x80)) = some (v / 4096 % 0x40) :=
      tail?_ofNat (by omega) (by split <;> omega) (by split <;> omega)
    have hy : tail? 0x80 0xBF (UInt8.ofNat (v / 64 % 0x40 + 0x80)) = some (v / 64 % 0x40) :=
      tail?_ofNat (by omega) (by omega) (by omega)
    have hz : tail? 0x80 0xBF (UInt8.ofNat (v % 0x40 + 0x80)) = some (v % 0x40) :=
      tail?_ofNat (by omega) (by omega) (by omega)
    simp only [List.cons_append, List.nil_append, takeChar?, ha]
    rw [if_neg (by omega), if_neg (by omega), if_neg (by omega), if_pos (by omega), hx, hy, hz]
    simp only [Option.bind_eq_bind, Option.bind_some]
    rw [hc _ (by omega)]

theorem tail?_eq_some {low high n : Nat} {b : UInt8} (h : tail? low high b = some n) :
    low ≤ b.toNat ∧ b.toNat ≤ high ∧ n = b.toNat - 0x80 := by
  unfold tail? at h
  split at h
  · next hrange => exact ⟨hrange.1, hrange.2, (Option.some.inj h).symm⟩
  · contradiction

/-- What is taken off is the character that stands in front. -/
theorem eq_of_takeChar? {bytes rest : List UInt8} {c : Char}
    (h : takeChar? bytes = some (c, rest)) : bytes = String.utf8EncodeChar c ++ rest := by
  have hval : ∀ n, n.isValidChar → (Char.ofNat n).val.toNat = n := by
    intro n hn
    rw [Char.ofNat, dif_pos hn]
    rfl
  have hbyte : ∀ (b : UInt8) n, n = b.toNat → UInt8.ofNat n = b := by
    rintro b n rfl
    exact UInt8.ofNat_toNat
  unfold takeChar? at h
  split at h
  · contradiction
  next a more =>
  have ha := a.toNat_lt
  dsimp only at h
  split at h
  · obtain ⟨rfl, rfl⟩ := Prod.mk.inj (Option.some.inj h)
    have hv := hval a.toNat (.inl (by omega))
    unfold String.utf8EncodeChar
    dsimp only
    rw [hv, if_pos (by omega), hbyte a _ rfl]
    rfl
  split at h
  · split at h
    · next b more =>
      obtain ⟨x, hx, heq⟩ := Option.bind_eq_some_iff.mp h
      obtain ⟨rfl, rfl⟩ := Prod.mk.inj (Option.some.inj heq)
      obtain ⟨hlow, hhigh, hxb⟩ := tail?_eq_some hx
      have hv := hval ((a.toNat - 0xC0) * 64 + x) (.inl (by omega))
      unfold String.utf8EncodeChar
      dsimp only
      rw [hv, if_neg (by omega), if_pos (by omega), hbyte a _ (by omega), hbyte b _ (by omega)]
      rfl
    · contradiction
  split at h
  · split at h
    · next b c more =>
      obtain ⟨x, hx, h⟩ := Option.bind_eq_some_iff.mp h
      obtain ⟨y, hy, heq⟩ := Option.bind_eq_some_iff.mp h
      obtain ⟨rfl, rfl⟩ := Prod.mk.inj (Option.some.inj heq)
      obtain ⟨hlow, hhigh, hxb⟩ := tail?_eq_some hx
      obtain ⟨hlow', hhigh', hyc⟩ := tail?_eq_some hy
      -- No overlong form and no surrogate comes out.
      obtain ⟨hb, hsix, hlong, hscalar⟩ : 0x80 ≤ b.toNat ∧ x < 64 ∧
          0x800 ≤ ((a.toNat - 0xE0) * 64 + x) * 64 + y ∧
          (((a.toNat - 0xE0) * 64 + x) * 64 + y < 0xD800 ∨
            0xDFFF < ((a.toNat - 0xE0) * 64 + x) * 64 + y) := by
        split at hlow <;> split at hhigh <;> omega
      have hv := hval (((a.toNat - 0xE0) * 64 + x) * 64 + y)
        (hscalar.imp id fun h => ⟨h, by omega⟩)
      unfold String.utf8EncodeChar
      dsimp only
      rw [hv, if_neg (by omega), if_neg (by omega), if_pos (by omega), hbyte a _ (by omega),
        hbyte b _ (by omega), hbyte c _ (by omega)]
      rfl
    · contradiction
  split at h
  · split at h
    · next b c d more =>
      obtain ⟨x, hx, h⟩ := Option.bind_eq_some_iff.mp h
      obtain ⟨y, hy, h⟩ := Option.bind_eq_some_iff.mp h
      obtain ⟨z, hz, heq⟩ := Option.bind_eq_some_iff.mp h
      obtain ⟨rfl, rfl⟩ := Prod.mk.inj (Option.some.inj heq)
      obtain ⟨hlow, hhigh, hxb⟩ := tail?_eq_some hx
      obtain ⟨hlow', hhigh', hyc⟩ := tail?_eq_some hy
      obtain ⟨hlow'', hhigh'', hzd⟩ := tail?_eq_some hz
      obtain ⟨hb, hsix, hlong, hscalar⟩ : 0x80 ≤ b.toNat ∧ x < 64 ∧
          0x10000 ≤ (((a.toNat - 0xF0) * 64 + x) * 64 + y) * 64 + z ∧
          (((a.toNat - 0xF0) * 64 + x) * 64 + y) * 64 + z < 0x110000 := by
        split at hlow <;> split at hhigh <;> omega
      have hv := hval ((((a.toNat - 0xF0) * 64 + x) * 64 + y) * 64 + z)
        (.inr ⟨by omega, hscalar⟩)
      unfold String.utf8EncodeChar
      dsimp only
      rw [hv, if_neg (by omega), if_neg (by omega), if_neg (by omega), hbyte a _ (by omega),
        hbyte b _ (by omega), hbyte c _ (by omega), hbyte d _ (by omega)]
      rfl
    · contradiction
  · contradiction

/-- The first byte of a character is the character itself in ASCII, and lies above ASCII else. -/
theorem utf8EncodeChar_eq_cons (c : Char) :
    ∃ b rest, String.utf8EncodeChar c = b :: rest ∧
      (b.toNat = c.toNat ∨ 0x80 ≤ b.toNat ∧ 0x80 ≤ c.toNat) := by
  have hc : c.toNat = c.val.toNat := rfl
  have hlead : ∀ n < 256, (UInt8.ofNat n).toNat = n := fun n hn => by
    rw [UInt8.toNat_ofNat', Nat.mod_eq_of_lt hn]
  unfold String.utf8EncodeChar
  dsimp only
  rw [hc]
  generalize c.val.toNat = v
  split
  · exact ⟨_, _, rfl, .inl (hlead v (by omega))⟩
  split
  · exact ⟨_, _, rfl, .inr (by rw [hlead _ (by omega)]; omega)⟩
  split
  · exact ⟨_, _, rfl, .inr (by rw [hlead _ (by omega)]; omega)⟩
  · exact ⟨_, _, rfl, .inr (by rw [hlead _ (by omega)]; omega)⟩

/-- The bytes of a character behind its first one lie above ASCII. -/
theorem le_of_mem_tail_utf8EncodeChar {c : Char} {b : UInt8}
    (h : b ∈ (String.utf8EncodeChar c).tail) : 0x80 ≤ b.toNat := by
  have hbyte : ∀ n, (UInt8.ofNat (n % 0x40 + 0x80)).toNat = n % 0x40 + 0x80 := fun n => by
    rw [UInt8.toNat_ofNat']
    omega
  unfold String.utf8EncodeChar at h
  dsimp only at h
  split at h
  · contradiction
  split at h
  · simp only [List.tail_cons, List.mem_singleton] at h
    rw [h, hbyte]
    omega
  split at h
  · simp only [List.tail_cons, List.mem_cons, List.not_mem_nil, or_false] at h
    rcases h with rfl | rfl <;> rw [hbyte] <;> omega
  · simp only [List.tail_cons, List.mem_cons, List.not_mem_nil, or_false] at h
    rcases h with rfl | rfl | rfl <;> rw [hbyte] <;> omega

end Roster.Text.Utf8

namespace Roster.Url

theorem utf8_append (s t : List Char) : utf8 (s ++ t) = utf8 s ++ utf8 t := List.flatMap_append

theorem utf8_cons (c : Char) (s : List Char) :
    utf8 (c :: s) = String.utf8EncodeChar c ++ utf8 s := List.flatMap_cons

theorem utf8_nil : utf8 [] = [] := rfl

theorem utf8EncodeChar_of_ascii {c : Char} (hc : c.toNat < 0x80) :
    String.utf8EncodeChar c = [c.toNat.toUInt8] := by
  unfold String.utf8EncodeChar
  exact if_pos (Nat.le_of_lt_succ hc)

/-- The UTF-8 form of a string is that of its characters. -/
theorem toUTF8_ofList (s : List Char) : (String.ofList s).toUTF8.data.toList = utf8 s := by
  rw [String.toUTF8_eq_toByteArray, String.toByteArray_ofList, List.utf8Encode,
    List.toList_data_toByteArray]
  rfl

theorem length_le_length_utf8 (s : List Char) : s.length ≤ (utf8 s).length := by
  induction s with
  | nil => simp
  | cons c rest ih =>
      obtain ⟨b, tail, hc, -⟩ := Text.Utf8.utf8EncodeChar_eq_cons c
      rw [utf8_cons, hc]
      simp only [List.length_cons, List.cons_append, List.length_append]
      omega

end Roster.Url

namespace Roster.Text.Utf8

theorem decode?_of_takeChar? {bytes rest : List UInt8} {c : Char}
    (h : takeChar? bytes = some (c, rest)) : decode? bytes = (decode? rest).map (c :: ·) := by
  rw [decode?]
  split
  · next htake =>
    obtain ⟨rfl, rfl⟩ := Prod.mk.inj (Option.some.inj (h.symm.trans htake))
    rfl
  · next hnone => rw [h] at hnone; contradiction

theorem decode?_utf8 (s : List Char) : decode? (Url.utf8 s) = some s := by
  induction s with
  | nil => rw [decode?]; rfl
  | cons c rest ih =>
      rw [Url.utf8_cons, decode?_of_takeChar? (takeChar?_utf8EncodeChar c _), ih]
      rfl

theorem utf8_inj {s t : List Char} : Url.utf8 s = Url.utf8 t ↔ s = t := by
  refine ⟨fun h => ?_, congrArg _⟩
  have hs := decode?_utf8 s
  rw [h, decode?_utf8] at hs
  exact (Option.some.inj hs).symm

/-- Bytes that are read are the UTF-8 form of what they are read as, and no other bytes are. -/
theorem decode?_eq_some_iff {bytes : List UInt8} {s : List Char} :
    decode? bytes = some s ↔ bytes = Url.utf8 s := by
  refine ⟨fun h => ?_, fun h => h ▸ decode?_utf8 s⟩
  induction bytes using decode?.induct generalizing s with
  | case1 bytes c rest htake ih =>
      rw [decode?_of_takeChar? htake] at h
      obtain ⟨t, ht, rfl⟩ := Option.map_eq_some_iff.mp h
      rw [eq_of_takeChar? htake, ih ht, Url.utf8_cons]
  | case2 bytes htake hempty =>
      rw [List.isEmpty_iff.mp hempty, decode?] at h
      rw [List.isEmpty_iff.mp hempty, ← Option.some.inj h]
      rfl
  | case3 bytes htake hempty =>
      rw [decode?] at h
      split at h
      · next hsome => rw [htake] at hsome; contradiction
      · rw [if_neg hempty] at h
        contradiction

end Roster.Text.Utf8
