import Roster.Proofs.Text.Ascii
import Roster.Proofs.Text.Split
import Roster.Proofs.Url.Percent
import Roster.Url.Form
/-!
# Query parameters are read back

What a name or value is encoded as has none of the marks that queries are split at, so a parameter
that was added to a query is found behind those that were there, and it has the bytes of its text.
-/

namespace Roster.Url.Form

/-! ### Encoded texts -/

theorem lt_of_keep {c : Char} (h : keep c) : c.toNat < 0x80 := by
  simp only [keep, Bool.or_eq_true, beq_iff_eq] at h
  rcases h with (((halphanum | rfl) | rfl) | rfl) | rfl
  · exact Text.lt_of_isAlphanum halphanum
  all_goals decide

theorem keep_digitChar : ∀ n < 16, keep (Nat.digitChar n).toUpper := by decide

theorem keep_of_mem_percentByte {b : UInt8} {c : Char} (h : c ∈ percentByte b) :
    keep c ∨ c = '%' := by
  have hdigits : ∀ n < 16, keep (Nat.digitChar n).toUpper ∨ (Nat.digitChar n).toUpper = '%' :=
    fun n hn => .inl (keep_digitChar n hn)
  exact forall_mem_percentByte (p := fun c => keep c ∨ c = '%') hdigits (.inr rfl) c h

theorem keep_of_mem_encode {s : List Char} {c : Char} (h : c ∈ encode s) :
    keep c ∨ c = '%' ∨ c = '+' := by
  obtain ⟨d, -, hc⟩ := List.mem_flatMap.mp h
  unfold encodeChar percentChar at hc
  split at hc
  · exact .inr (.inr (List.mem_singleton.mp hc))
  · split at hc
    · next hkeep =>
      rw [List.mem_singleton.mp hc]
      exact .inl hkeep
    · obtain ⟨b, -, hb⟩ := List.mem_flatMap.mp hc
      rcases keep_of_mem_percentByte hb with hkeep | hpercent
      · exact .inl hkeep
      · exact .inr (.inl hpercent)

theorem notMem_encode {mark : Char} (hkeep : keep mark = false) (hpercent : mark ≠ '%')
    (hplus : mark ≠ '+') (s : List Char) : mark ∉ encode s := by
  intro h
  rcases keep_of_mem_encode h with h | h | h
  · simp [hkeep] at h
  · exact hpercent h
  · exact hplus h

/-! ### Decoding -/

/-- A plus sign stands for a blank. -/
def plusToBlank (c : Char) : Char := if c = '+' then ' ' else c

theorem decode_eq (s : List Char) : decode s = percentDecode (utf8 (s.map plusToBlank)) := rfl

theorem map_plusToBlank_of_notMem {s : List Char} (h : '+' ∉ s) : s.map plusToBlank = s := by
  have hid : ∀ c ∈ s, plusToBlank c = id c := by
    intro c hc
    apply if_neg
    rintro rfl
    exact h hc
  rw [List.map_congr_left hid, List.map_id]

theorem plus_notMem_percentBytes (bytes : List UInt8) : '+' ∉ bytes.flatMap percentByte := by
  intro h
  obtain ⟨b, -, hb⟩ := List.mem_flatMap.mp h
  rcases keep_of_mem_percentByte hb with hkeep | hpercent
  · exact absurd hkeep (by decide)
  · exact absurd hpercent (by decide)

theorem percentDecode_encodeChar (c : Char) (rest : List UInt8) :
    percentDecode (utf8 ((encodeChar c).map plusToBlank) ++ rest) =
      String.utf8EncodeChar c ++ percentDecode rest := by
  unfold encodeChar percentChar
  split
  · next hblank =>
    subst hblank
    have hbytes : utf8 (['+'].map plusToBlank) = [32] := by decide
    have hchar : String.utf8EncodeChar ' ' = [32] := by decide
    rw [hbytes, hchar]
    exact percentDecode_cons (by decide) rest
  · split
    · next hkeep =>
      have hplus : c ≠ '+' := by
        rintro rfl
        exact absurd hkeep (by decide)
      have hpercent : c ≠ '%' := by
        rintro rfl
        exact absurd hkeep (by decide)
      have hbyte := Text.toUInt8_ne_of_ne (lt_of_keep hkeep) (by decide) hpercent
      rw [List.map_singleton, plusToBlank, if_neg hplus, utf8_cons, utf8_nil, List.append_nil,
        utf8EncodeChar_of_ascii (lt_of_keep hkeep), List.singleton_append]
      exact percentDecode_cons hbyte rest
    · rw [map_plusToBlank_of_notMem (plus_notMem_percentBytes _), percentDecode_percentBytes]

theorem percentDecode_encode (s : List Char) (rest : List UInt8) :
    percentDecode (utf8 ((encode s).map plusToBlank) ++ rest) = utf8 s ++ percentDecode rest := by
  induction s with
  | nil => rfl
  | cons c s ih =>
      have hencode : encode (c :: s) = encodeChar c ++ encode s := List.flatMap_cons
      rw [hencode, List.map_append, utf8_append, List.append_assoc, percentDecode_encodeChar, ih,
        utf8_cons, List.append_assoc]

theorem decode_encode (s : List Char) : decode (encode s) = utf8 s := by
  have h := percentDecode_encode s []
  rw [List.append_nil] at h
  rw [decode_eq, h]
  exact List.append_nil _

/-! ### Parameters -/

theorem decodePair_encodePair (name value : List Char) :
    decodePair (encodePair name value) = (utf8 name, utf8 value) := by
  have hequals : '=' ∉ encode name := notMem_encode (by decide) (by decide) (by decide) name
  have hname := Text.ne_of_notMem hequals
  unfold decodePair encodePair
  rw [List.takeWhile_append_of_pos hname, List.dropWhile_append_of_pos hname]
  simp [decode_encode]

theorem splitOn_encodePair (name value : List Char) :
    Text.splitOn '&' (encodePair name value) = [encodePair name value] := by
  apply Text.splitOn_of_notMem
  have hmark : ∀ s, '&' ∉ encode s := notMem_encode (by decide) (by decide) (by decide)
  simp [encodePair, hmark]

/-- A parameter that is added to a query is the last one of it. -/
theorem decodePairs_append (query name value : List Char) :
    decodePairs (append query name value) = decodePairs query ++ [(utf8 name, utf8 value)] := by
  have hne : (encodePair name value).isEmpty = false := by simp [encodePair]
  unfold append
  split
  · next hempty =>
    rw [List.isEmpty_iff.mp hempty]
    simp [decodePairs, splitOn_encodePair, hne, decodePair_encodePair, Text.splitOn]
  · unfold decodePairs
    rw [Text.splitOn_append, splitOn_encodePair, List.filter_append, List.map_append]
    simp [hne, decodePair_encodePair]

theorem decodePairs_appendAll (query : List Char) (pairs : List (List Char × List Char)) :
    decodePairs (appendAll query pairs) =
      decodePairs query ++ pairs.map fun p => (utf8 p.1, utf8 p.2) := by
  unfold appendAll
  induction pairs generalizing query with
  | nil => simp
  | cons p pairs ih => rw [List.foldl_cons, ih, decodePairs_append, List.map_cons]; simp

end Roster.Url.Form
