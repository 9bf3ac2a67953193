import Roster.Proofs.Url.Written
/-!
# Paths are read again

Once dots and slashes are dealt with, the segments of a path of the web are written so that they stand
for themselves: encoding makes up no dots and no slashes. So a path that is written down is read again
as it is.
-/

namespace Roster.Url

/-! ### Dots that are written -/

theorem percentEncode_cons (keep : Char → Bool) (c : Char) (s : List Char) :
    percentEncode keep (c :: s) = percentChar keep c ++ percentEncode keep s := List.flatMap_cons

/-- A character that is not kept is written with a percent sign and the digits of its first byte. -/
theorem percentChar_eq_cons {keep : Char → Bool} {c : Char} (hc : keep c = false) :
    ∃ (b : UInt8) (rest : List Char), percentChar keep c = percentByte b ++ rest ∧
      (b.toNat = c.toNat ∨ 0x80 ≤ b.toNat) := by
  obtain ⟨b, bytes, hbytes, hb⟩ := Text.Utf8.utf8EncodeChar_eq_cons c
  refine ⟨b, bytes.flatMap percentByte, ?_, hb.imp id And.left⟩
  rw [percentChar, if_neg (by simp [hc]), hbytes, List.flatMap_cons]

theorem eq_cons_of_percentEncode {keep : Char → Bool} {d : Char} (hd : d ≠ '%')
    {s t : List Char} (h : percentEncode keep s = d :: t) :
    ∃ rest, s = d :: rest ∧ t = percentEncode keep rest := by
  cases s with
  | nil => contradiction
  | cons c rest =>
      rw [percentEncode_cons] at h
      cases hc : keep c with
      | true =>
          rw [percentChar, if_pos hc, List.singleton_append] at h
          obtain ⟨rfl, rfl⟩ := List.cons.inj h
          exact ⟨rest, rfl, rfl⟩
      | false =>
          obtain ⟨b, more, heq, -⟩ := percentChar_eq_cons hc
          rw [heq] at h
          exact absurd (List.cons.inj h).1 (Ne.symm hd)

theorem dropDot_eq_some {s t : List Char} : dropDot s = some t ↔
    s = '.' :: t ∨ s = '%' :: '2' :: 'e' :: t ∨ s = '%' :: '2' :: 'E' :: t := by
  unfold dropDot
  split <;> simp_all

/-- A byte that is written like an encoded dot is the byte of a dot. -/
theorem toNat_of_percentByte {b : UInt8} {d : Char} (hd : d = 'e' ∨ d = 'E') {s t : List Char}
    (h : percentByte b ++ s = '%' :: '2' :: d :: t) : b.toNat = '.'.toNat := by
  have hdigits : ∀ high < 16, ∀ low < 16, (Nat.digitChar high).toUpper = '2' →
      (Nat.digitChar low).toUpper = 'e' ∨ (Nat.digitChar low).toUpper = 'E' →
        high * 16 + low = '.'.toNat := by decide
  have hbyte : b.toNat < 256 := b.toNat_lt
  obtain ⟨-, h⟩ := List.cons.inj h
  obtain ⟨hhigh, h⟩ := List.cons.inj h
  obtain ⟨hlow, -⟩ := List.cons.inj h
  rw [← hlow] at hd
  have hvalue := hdigits _ (by omega) _ (by omega) hhigh hd
  omega

/-- A dot that is found in what is written stood there before. -/
theorem dropDot_of_percentEncode {keep : Char → Bool} (hdot : keep '.') {s t : List Char}
    (h : dropDot (percentEncode keep s) = some t) :
    ∃ rest, dropDot s = some rest ∧ t = percentEncode keep rest := by
  rcases dropDot_eq_some.mp h with h | h
  · obtain ⟨rest, rfl, rfl⟩ := eq_cons_of_percentEncode (by decide) h
    exact ⟨rest, rfl, rfl⟩
  · obtain ⟨d, hd, h⟩ : ∃ d, (d = 'e' ∨ d = 'E') ∧ percentEncode keep s = '%' :: '2' :: d :: t :=
      h.elim (fun h => ⟨'e', .inl rfl, h⟩) (fun h => ⟨'E', .inr rfl, h⟩)
    cases s with
    | nil => contradiction
    | cons c more =>
        rw [percentEncode_cons] at h
        cases hc : keep c with
        | true =>
            have hpercent : d ≠ '%' := by
              rcases hd with rfl | rfl <;> decide
            rw [percentChar, if_pos hc, List.singleton_append] at h
            obtain ⟨rfl, hmore⟩ := List.cons.inj h
            obtain ⟨last, rfl, hlast⟩ := eq_cons_of_percentEncode (by decide) hmore
            obtain ⟨rest, rfl, rfl⟩ := eq_cons_of_percentEncode hpercent hlast.symm
            refine ⟨rest, dropDot_eq_some.mpr (.inr ?_), rfl⟩
            rcases hd with rfl | rfl
            · exact .inl rfl
            · exact .inr rfl
        | false =>
            -- Only a dot has the byte of a dot, and dots are kept.
            obtain ⟨b, others, heq, hb⟩ := percentChar_eq_cons hc
            rw [heq, List.append_assoc] at h
            have hsame := toNat_of_percentByte hd h
            rcases hb with hb | hb
            · rw [Char.toNat_inj.mp (hb.symm.trans hsame), hdot] at hc
              contradiction
            · rw [hsame] at hb
              exact absurd hb (by decide)

theorem eq_nil_of_percentEncode {keep : Char → Bool} {s : List Char}
    (h : percentEncode keep s = []) : s = [] := by
  cases s with
  | nil => rfl
  | cons c rest =>
      rw [percentEncode_cons, List.append_eq_nil_iff] at h
      cases hc : keep c with
      | true =>
          rw [percentChar, if_pos hc] at h
          exact absurd h.1 (List.cons_ne_nil _ _)
      | false =>
          obtain ⟨b, more, heq, -⟩ := percentChar_eq_cons hc
          rw [heq] at h
          exact absurd h.1 (List.cons_ne_nil _ _)

section

variable {keep : Char → Bool} (hdot : keep '.') {s : List Char}

include hdot

theorem isSingleDot_percentEncode (h : isSingleDot s = false) :
    isSingleDot (percentEncode keep s) = false := by
  rw [Bool.eq_false_iff] at h ⊢
  intro hwritten
  obtain ⟨rest, hrest, hnil⟩ := dropDot_of_percentEncode hdot (beq_iff_eq.mp hwritten)
  rw [eq_nil_of_percentEncode hnil.symm] at hrest
  exact h (beq_iff_eq.mpr hrest)

theorem isDoubleDot_percentEncode (h : isDoubleDot s = false) :
    isDoubleDot (percentEncode keep s) = false := by
  rw [Bool.eq_false_iff] at h ⊢
  intro hwritten
  obtain ⟨t, ht, hlast⟩ := Option.bind_eq_some_iff.mp (beq_iff_eq.mp hwritten)
  obtain ⟨more, hmore, rfl⟩ := dropDot_of_percentEncode hdot ht
  obtain ⟨rest, hrest, hnil⟩ := dropDot_of_percentEncode hdot hlast
  rw [eq_nil_of_percentEncode hnil.symm] at hrest
  exact h (beq_iff_eq.mpr (Option.bind_eq_some_iff.mpr ⟨more, hmore, hrest⟩))

end

/-! ### Segments that are written -/

theorem writeSegment_web (before : List (List Char)) (segment : List Char) :
    writeSegment .web before segment = percentEncode keepPath segment :=
  if_neg fun hfile => absurd hfile.1 (by decide)

/-- What a segment is written as stands for itself. -/
theorem settled_percentEncode {segment : List Char} (hslashless : Slashless segment)
    (hdouble : isDoubleDot segment = false) (hsingle : isSingleDot segment = false) :
    Settled .web (percentEncode keepPath segment) := by
  have hkept : ∀ c ∈ percentEncode keepPath segment, keepPath c :=
    forall_mem_percentEncode (fun _ _ h => h) (by decide) rfl
  refine ⟨?_, isDoubleDot_percentEncode rfl hdouble, isSingleDot_percentEncode rfl hsingle, ?_⟩
  · exact forall_mem_percentEncode (fun c hc _ => hslashless c hc) (by decide) rfl
  · intro before
    rw [writeSegment_web, percentEncode_of_keep hkept]

theorem Settled.unmarked {segment : List Char} (h : Settled .web segment) : Unmarked segment := by
  have hunmarked : ∀ c, keepPath c → isMark c = false := by
    intro c hc
    rw [Bool.eq_false_iff]
    intro hmark
    simp only [isMark, Bool.or_eq_true, beq_iff_eq] at hmark
    rcases hmark with rfl | rfl <;> exact absurd hc (by decide)
  have hdigits : ∀ n < 16, isMark (Nat.digitChar n).toUpper = false := by decide
  rw [← h.written [], writeSegment_web]
  exact forall_mem_percentEncode (fun c _ hc => hunmarked c hc) hdigits rfl

theorem settled_nil : Settled .web [] := ⟨nofun, rfl, rfl, fun _ => rfl⟩

theorem settled_resolve (segments : List (List Char)) {before : List (List Char)}
    (hsegments : ∀ s ∈ segments, Slashless s) (h : ∀ s ∈ before, Settled .web s) :
    ∀ s ∈ resolve .web before segments, Settled .web s := by
  have hdropped : ∀ {before : List (List Char)}, (∀ s ∈ before, Settled .web s) →
      ∀ s ∈ dropSegment before, Settled .web s := by
    intro before h
    unfold dropSegment
    split
    · exact h
    · split
      · exact h
      · exact fun s hs => h s (List.mem_cons_of_mem _ hs)
  have hreversed : ∀ {last : List Char} {before : List (List Char)}, Settled .web last →
      (∀ s ∈ before, Settled .web s) → ∀ s ∈ (last :: before).reverse, Settled .web s := by
    intro last before hlast hbefore s hs
    exact List.forall_mem_cons.mpr ⟨hlast, hbefore⟩ s (List.mem_reverse.mp hs)
  have hwritten : ∀ (before : List (List Char)) {segment : List Char}, Slashless segment →
      ¬isDoubleDot segment = true → ¬isSingleDot segment = true →
        Settled .web (writeSegment .web before segment) := by
    intro before segment hslashless hdouble hsingle
    rw [writeSegment_web]
    exact settled_percentEncode hslashless (by simpa using hdouble) (by simpa using hsingle)
  -- Dots take segments away, and what is not made of dots is written encoded.
  fun_induction resolve .web before segments with
  | case1 before => simpa using h
  | case2 before last hdots => exact hreversed settled_nil (hdropped h)
  | case3 before last hdots hdot => exact hreversed settled_nil h
  | case4 before last hdots hdot =>
      exact hreversed (hwritten before (hsegments last List.mem_cons_self) hdots hdot) h
  | case5 before segment rest hrest hdots ih =>
      exact ih (fun s hs => hsegments s (List.mem_cons_of_mem segment hs)) (hdropped h)
  | case6 before segment rest hrest hdots hdot ih =>
      exact ih (fun s hs => hsegments s (List.mem_cons_of_mem segment hs)) h
  | case7 before segment rest hrest hdots hdot ih =>
      obtain ⟨hsegment, hothers⟩ := List.forall_mem_cons.mp hsegments
      exact ih hothers (List.forall_mem_cons.mpr ⟨hwritten before hsegment hdots hdot, h⟩)

theorem resolve_ne_nil {k : SchemeKind} {segments before : List (List Char)}
    (hne : segments ≠ []) : resolve k before segments ≠ [] := by
  fun_induction resolve k before segments with
  | case1 before => contradiction
  | case2 | case3 | case4 => simp
  | case5 before segment rest hrest hdots ih => exact ih (by simpa using hrest)
  | case6 before segment rest hrest hdots hdot ih => exact ih (by simpa using hrest)
  | case7 before segment rest hrest hdots hdot ih => exact ih (by simpa using hrest)

theorem slashless_readSegments (s : List Char) : ∀ t ∈ readSegments .web s, Slashless t := by
  intro t ht c hc
  rw [readSegments_eq, if_pos (by decide)] at ht
  have hslash : '/' ∉ t := Text.not_mem_of_mem_splitOn ht
  have hsub : ∀ s : List Char, skipSlash s ⊆ s := by
    intro s
    unfold skipSlash
    split
    · exact List.subset_cons_self _ _
    · exact List.Subset.refl s
  obtain ⟨d, -, rfl⟩ := List.mem_map.mp (hsub _ (Text.mem_of_mem_splitOn ht hc))
  -- Backslashes have become slashes, and the text is split at all of these.
  split at hc
  · contradiction
  · next hbackslash =>
    have hother : d ≠ '/' := fun hd => hslash (hd ▸ hc)
    rw [if_neg hbackslash]
    simp [isSlash, hother, hbackslash]

/-- A path of the web as it is written. -/
def IsPath (path : List Char) : Prop :=
  ∃ segments, segments ≠ [] ∧ (∀ s ∈ segments, Settled .web s) ∧ path = joinSegments segments

theorem isPath_readPath (s : List Char) : IsPath (readPath .web s) := by
  refine ⟨_, ?_, settled_resolve _ (slashless_readSegments s) (List.forall_mem_nil _), rfl⟩
  exact resolve_ne_nil (Text.splitOn_ne_nil _ _)

namespace IsPath

variable {path : List Char} (h : IsPath path)

include h

theorem readPath_eq : readPath .web path = path := by
  obtain ⟨segments, hne, hsettled, rfl⟩ := h
  exact readPath_settled hsettled hne nofun

theorem exists_eq_cons : ∃ rest, path = '/' :: rest := by
  obtain ⟨segments, hne, -, rfl⟩ := h
  exact exists_joinSegments_eq hne

theorem unmarked : Unmarked path := by
  obtain ⟨segments, -, hsettled, rfl⟩ := h
  intro c hc
  obtain ⟨segment, hsegment, hc⟩ := List.mem_flatMap.mp hc
  rcases List.mem_cons.mp hc with rfl | hc
  · rfl
  · exact (hsettled segment hsegment).unmarked c hc

end IsPath

end Roster.Url
