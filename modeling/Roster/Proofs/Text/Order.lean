import Mathlib.Data.String.Basic
import Roster.Proofs.Text.Utf8
/-!
# The order of texts

Texts are ordered by their characters. UTF-8 keeps that order: the bytes of texts, compared from the
left, are in the order of the texts themselves.
-/

namespace Roster.Url

theorem ofNat_cons_lt_iff {m n : Nat} (hm : m < 256) (hn : n < 256) {x y : List UInt8} :
    UInt8.ofNat m :: x < UInt8.ofNat n :: y ↔ m < n ∨ m = n ∧ x < y := by
  have htoNat : ∀ k < 256, (UInt8.ofNat k).toNat = k := fun k hk => by
    rw [UInt8.toNat_ofNat', Nat.mod_eq_of_lt hk]
  rw [List.cons_lt_cons_iff, UInt8.lt_iff_toNat_lt, ← UInt8.toNat_inj, htoNat m hm, htoNat n hn]

theorem utf8EncodeChar_append_lt {c d : Char} (h : c < d) (x y : List UInt8) :
    String.utf8EncodeChar c ++ x < String.utf8EncodeChar d ++ y := by
  have hbound : ∀ e : Char, e.val.toNat < 0x110000 := fun e => by
    have hvalid : e.val.toNat < 0xD800 ∨ 0xDFFF < e.val.toNat ∧ e.val.toNat < 0x110000 := e.valid
    omega
  have hdigits : ∀ n, n / 4096 = n / 64 / 64 ∧ n / 262144 = n / 64 / 64 / 64 := fun n => by
    constructor <;> simp [Nat.div_div_eq_div_mul]
  have hc := hbound c
  have hd := hbound d
  have hlt : c.val.toNat < d.val.toNat := UInt32.lt_iff_toNat_lt.mp h
  unfold String.utf8EncodeChar
  dsimp only
  generalize c.val.toNat = v at hc hlt ⊢
  generalize d.val.toNat = w at hd hlt ⊢
  rw [(hdigits v).1, (hdigits v).2, (hdigits w).1, (hdigits w).2]
  -- The character with more bytes has the greater first byte; of as many, the digits decide.
  split_ifs
  all_goals
    simp (disch := omega) only [List.cons_append, List.nil_append, ofNat_cons_lt_iff]
    omega

theorem utf8_lt_utf8 {s t : List Char} (h : s < t) : utf8 s < utf8 t := by
  induction s generalizing t with
  | nil =>
      cases t with
      | nil => simp at h
      | cons d t =>
          obtain ⟨b, rest, hd, -⟩ := Text.Utf8.utf8EncodeChar_eq_cons d
          rw [utf8_cons, hd]
          simp [utf8_nil]
  | cons c s ih =>
      cases t with
      | nil => simp at h
      | cons d t =>
          rw [utf8_cons, utf8_cons]
          rcases List.cons_lt_cons_iff.mp h with hlt | ⟨rfl, hlt⟩
          · exact utf8EncodeChar_append_lt hlt _ _
          · exact List.append_left_lt (ih hlt)

end Roster.Url
