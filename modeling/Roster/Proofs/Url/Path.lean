import Roster.Proofs.Text.Ascii
import Roster.Proofs.Text.Split
import Roster.Url.Path
/-!
# Paths that end in written segments

A segment is settled when it is written in a path as it is: no slash divides it, it is not made of
dots, and it has no character that would be encoded. Settled segments at the end of the text of a path
are its last segments, whatever stands before them: dots and slashes are dealt with in front of them.
Segments of letters, digits and underscores are settled under every scheme.
-/

namespace Roster.Url

/-! ### Plain segments -/

def isPlain (c : Char) : Bool := c.isAlphanum || c == '_'

/-- Characters that mean nothing in a URL, and at least one of them. -/
def Plain (segment : List Char) : Prop := segment ≠ [] ∧ ∀ c ∈ segment, isPlain c

instance (segment : List Char) : Decidable (Plain segment) :=
  decidable_of_iff (segment ≠ [] ∧ segment.all isPlain) (by rw [Plain, List.all_eq_true])

/-- The characters of plain segments and of the slashes before them. -/
def isOrdinary (c : Char) : Bool := isPlain c || c == '/'

theorem isOrdinary_of_isPlain {c : Char} (h : isPlain c) : isOrdinary c := by
  simp [isOrdinary, h]

theorem lt_of_isOrdinary {c : Char} (h : isOrdinary c) : c.toNat < 128 := by
  simp only [isOrdinary, isPlain, Bool.or_eq_true, beq_iff_eq] at h
  rcases h with (h | rfl) | rfl
  · exact Text.lt_of_isAlphanum h
  · decide
  · decide

/-- A property of ordinary characters is checked for those of ASCII. -/
theorem of_isOrdinary {q : Char → Bool}
    (hq : ∀ n < 128, isOrdinary (Char.ofNat n) → q (Char.ofNat n)) {c : Char}
    (h : isOrdinary c) : q c := by
  have hc := hq c.toNat (lt_of_isOrdinary h)
  rw [Char.ofNat_toNat] at hc
  exact hc h

theorem keepPath_of_isOrdinary {c : Char} (h : isOrdinary c) : keepPath c :=
  of_isOrdinary (by decide +kernel) h

theorem percentEncode_of_keep {keep : Char → Bool} {s : List Char} (h : ∀ c ∈ s, keep c) :
    percentEncode keep s = s := by
  unfold percentEncode
  induction s with
  | nil => rfl
  | cons c rest ih =>
      rw [List.forall_mem_cons] at h
      rw [List.flatMap_cons, percentChar, if_pos h.1, ih h.2]
      rfl

theorem isSlash_of_isPlain {k : SchemeKind} {c : Char} (h : isPlain c) : isSlash k c = false := by
  have hslash : c ≠ '/' := by
    rintro rfl
    revert h
    decide
  have hbackslash : c ≠ '\\' := by
    rintro rfl
    revert h
    decide
  simp [isSlash, hslash, hbackslash]

section

variable {segment : List Char} (h : Plain segment)

include h

theorem Plain.notMem {c : Char} (hc : isPlain c = false) : c ∉ segment := by
  intro hmem
  have hplain := h.2 c hmem
  simp [hc] at hplain

theorem Plain.dropDot_eq_none : dropDot segment = none := by
  have hdot := h.notMem (c := '.') (by decide)
  have hpercent := h.notMem (c := '%') (by decide)
  unfold dropDot
  split <;> simp_all

theorem Plain.isSingleDot_eq_false : isSingleDot segment = false := by
  simp [isSingleDot, h.dropDot_eq_none]

theorem Plain.isDoubleDot_eq_false : isDoubleDot segment = false := by
  simp [isDoubleDot, h.dropDot_eq_none]

theorem Plain.isDrive_eq_false : isDrive segment = false := by
  have hcolon := h.notMem (c := ':') (by decide)
  have hbar := h.notMem (c := '|') (by decide)
  unfold isDrive startsWithDrive
  split
  · simp only [List.mem_cons, not_or] at hcolon hbar
    simp [Ne.symm hcolon.2.1, Ne.symm hbar.2.1]
  · rfl

theorem Plain.writeSegment_eq (k : SchemeKind) (before : List (List Char)) :
    writeSegment k before segment = segment := by
  unfold writeSegment
  rw [h.isDrive_eq_false, if_neg (by simp)]
  exact percentEncode_of_keep fun c hc => keepPath_of_isOrdinary (isOrdinary_of_isPlain (h.2 c hc))

end

/-! ### Segments -/

/-- The text of a path without a slash in front of it. -/
def skipSlash (s : List Char) : List Char :=
  match s with
  | '/' :: rest => rest
  | _ => s

theorem readSegments_eq (k : SchemeKind) (s : List Char) :
    readSegments k s = Text.splitOn '/' (skipSlash
      (if k.isSpecial then s.map fun c => if c = '\\' then '/' else c else s)) := rfl

/-- A segment that no slash divides. -/
def Slashless (segment : List Char) : Prop := ∀ c ∈ segment, isSlash .web c = false

theorem Slashless.notMem {segment : List Char} (h : Slashless segment) : '/' ∉ segment :=
  fun hmem => absurd (h '/' hmem) (by decide)

theorem Plain.slashless {segment : List Char} (h : Plain segment) : Slashless segment :=
  fun c hc => isSlash_of_isPlain (h.2 c hc)

/-- A segment that is written in a path as it is. -/
structure Settled (k : SchemeKind) (segment : List Char) : Prop where
  slashless : Slashless segment
  doubleDot : isDoubleDot segment = false
  singleDot : isSingleDot segment = false
  written : ∀ before, writeSegment k before segment = segment

theorem Plain.settled {segment : List Char} (h : Plain segment) (k : SchemeKind) :
    Settled k segment :=
  ⟨h.slashless, h.isDoubleDot_eq_false, h.isSingleDot_eq_false, h.writeSegment_eq k⟩

theorem exists_joinSegments_eq {segments : List (List Char)} (hne : segments ≠ []) :
    ∃ p, joinSegments segments = '/' :: p := by
  obtain ⟨segment, rest, rfl⟩ := List.exists_cons_of_ne_nil hne
  exact ⟨_, rfl⟩

theorem resolve_cons {k : SchemeKind} {segments : List (List Char)} (hne : segments ≠ [])
    (before : List (List Char)) (segment : List Char) :
    resolve k before (segment :: segments) =
      if isDoubleDot segment then resolve k (dropSegment before) segments
      else if isSingleDot segment then resolve k before segments
      else resolve k (writeSegment k before segment :: before) segments := by
  obtain ⟨next, rest, rfl⟩ := List.exists_cons_of_ne_nil hne
  rfl

/-! ### Segments without slashes -/

section

variable {k : SchemeKind} {segments : List (List Char)} (hslashless : ∀ s ∈ segments, Slashless s)

include hslashless

theorem splitOn_append_joinSegments (s : List Char) :
    Text.splitOn '/' (s ++ joinSegments segments) = Text.splitOn '/' s ++ segments := by
  induction segments generalizing s with
  | nil => simp [joinSegments]
  | cons segment rest ih =>
      obtain ⟨hsegment, hrest⟩ := List.forall_mem_cons.mp hslashless
      have hjoin : joinSegments (segment :: rest) = '/' :: (segment ++ joinSegments rest) := rfl
      rw [hjoin, Text.splitOn_append, ih hrest, Text.splitOn_of_notMem hsegment.notMem]
      rfl

theorem map_backslash_joinSegments :
    (joinSegments segments).map (fun c => if c = '\\' then '/' else c) = joinSegments segments := by
  have hid : ∀ c ∈ joinSegments segments, (if c = '\\' then '/' else c) = id c := by
    intro c hc
    apply if_neg
    rintro rfl
    obtain ⟨segment, hsegment, hmem⟩ := List.mem_flatMap.mp hc
    rcases List.mem_cons.mp hmem with heq | hmem
    · contradiction
    · exact absurd (hslashless segment hsegment _ hmem) (by decide)
  rw [List.map_congr_left hid, List.map_id]

variable (hne : segments ≠ [])

include hne

theorem splitOn_skipSlash_joinSegments :
    Text.splitOn '/' (skipSlash (joinSegments segments)) = segments := by
  obtain ⟨segment, rest, rfl⟩ := List.exists_cons_of_ne_nil hne
  obtain ⟨hsegment, hrest⟩ := List.forall_mem_cons.mp hslashless
  change Text.splitOn '/' (segment ++ joinSegments rest) = segment :: rest
  rw [splitOn_append_joinSegments hrest, Text.splitOn_of_notMem hsegment.notMem]
  rfl

theorem exists_splitOn_skipSlash (s : List Char) :
    ∃ front, Text.splitOn '/' (skipSlash (s ++ joinSegments segments)) = front ++ segments := by
  cases s with
  | nil => exact ⟨[], splitOn_skipSlash_joinSegments hslashless hne⟩
  | cons c s =>
      rw [List.cons_append]
      unfold skipSlash
      split
      · next other heq =>
        rw [← (List.cons.inj heq).2]
        exact ⟨_, splitOn_append_joinSegments hslashless s⟩
      · exact ⟨_, splitOn_append_joinSegments hslashless (c :: s)⟩

theorem readSegments_joinSegments : readSegments k (joinSegments segments) = segments := by
  rw [readSegments_eq, map_backslash_joinSegments hslashless, ite_self]
  exact splitOn_skipSlash_joinSegments hslashless hne

theorem exists_readSegments (s : List Char) :
    ∃ front, readSegments k (s ++ joinSegments segments) = front ++ segments := by
  rw [readSegments_eq]
  split
  · rw [List.map_append, map_backslash_joinSegments hslashless]
    exact exists_splitOn_skipSlash hslashless hne _
  · exact exists_splitOn_skipSlash hslashless hne s

end

/-! ### Settled segments -/

section

variable {k : SchemeKind} {segments : List (List Char)}
  (hsettled : ∀ s ∈ segments, Settled k s) (hne : segments ≠ [])

include hsettled hne

theorem resolve_settled (before : List (List Char)) :
    resolve k before segments = before.reverse ++ segments := by
  induction segments generalizing before with
  | nil => contradiction
  | cons segment rest ih =>
      obtain ⟨hsegment, hrest⟩ := List.forall_mem_cons.mp hsettled
      cases rest with
      | nil => simp [resolve, hsegment.doubleDot, hsegment.singleDot, hsegment.written]
      | cons next others =>
          have hothers : next :: others ≠ [] := List.cons_ne_nil _ _
          rw [resolve_cons hothers, hsegment.doubleDot, hsegment.singleDot, hsegment.written,
            if_neg Bool.false_ne_true, if_neg Bool.false_ne_true, ih hrest hothers]
          simp

/-- Dots remove segments before them only. -/
theorem exists_resolve_append (before front : List (List Char)) :
    ∃ kept, resolve k before (front ++ segments) = kept ++ segments := by
  induction front generalizing before with
  | nil => exact ⟨before.reverse, resolve_settled hsettled hne before⟩
  | cons segment front ih =>
      have hmore : front ++ segments ≠ [] := by simp [hne]
      rw [List.cons_append, resolve_cons hmore]
      split
      · exact ih _
      · split <;> exact ih _

/-- A path of settled segments is read as it is; that of a file must not start with an empty one. -/
theorem readPath_settled (hempty : k = .file → dropEmpty segments = segments) :
    readPath k (joinSegments segments) = joinSegments segments := by
  have hslashless : ∀ s ∈ segments, Slashless s := fun s hs => (hsettled s hs).slashless
  unfold readPath
  rw [readSegments_joinSegments hslashless hne, resolve_settled hsettled hne, List.reverse_nil,
    List.nil_append]
  dsimp only
  split
  · next hfile => rw [hempty hfile]
  · rfl

end

/-! ### Plain segments at the end -/

section

variable {k : SchemeKind} {segments : List (List Char)} (hplain : ∀ s ∈ segments, Plain s)

include hplain

theorem ordinary_joinSegments : ∀ c ∈ joinSegments segments, isOrdinary c := by
  intro c hc
  obtain ⟨segment, hsegment, hmem⟩ := List.mem_flatMap.mp hc
  rcases List.mem_cons.mp hmem with rfl | hmem
  · decide
  · exact isOrdinary_of_isPlain ((hplain segment hsegment).2 c hmem)

variable (hne : segments ≠ [])

include hne

theorem dropEmpty_of_plain : dropEmpty segments = segments := by
  obtain ⟨segment, rest, rfl⟩ := List.exists_cons_of_ne_nil hne
  obtain ⟨hsegment, -⟩ := List.forall_mem_cons.mp hplain
  unfold dropEmpty
  split
  · next heq => exact absurd (List.cons.inj heq).1 hsegment.1
  · rfl

theorem exists_dropEmpty_append (front : List (List Char)) :
    ∃ kept, dropEmpty (front ++ segments) = kept ++ segments := by
  induction front with
  | nil => exact ⟨[], dropEmpty_of_plain hplain hne⟩
  | cons first front ih =>
      cases first with
      | nil =>
          obtain ⟨next, others, hnext⟩ :=
            List.exists_cons_of_ne_nil (show front ++ segments ≠ [] by simp [hne])
          rw [hnext] at ih
          rw [List.cons_append, hnext]
          exact ih
      | cons c cs => exact ⟨(c :: cs) :: front, rfl⟩

theorem readPath_joinSegments : readPath k (joinSegments segments) = joinSegments segments :=
  readPath_settled (fun s hs => (hplain s hs).settled k) hne fun _ => dropEmpty_of_plain hplain hne

/-- A path ends with the plain segments that its text ends with. -/
theorem joinSegments_suffix_readPath {s : List Char} (hs : joinSegments segments <:+ s) :
    joinSegments segments <:+ readPath k s := by
  have hsettled : ∀ s ∈ segments, Settled k s := fun s hs => (hplain s hs).settled k
  obtain ⟨b, rfl⟩ := hs
  obtain ⟨front, hfront⟩ :=
    exists_readSegments (k := k) (fun s hs => (hplain s hs).slashless) hne b
  obtain ⟨kept, hkept⟩ := exists_resolve_append hsettled hne [] front
  unfold readPath
  rw [hfront, hkept]
  dsimp only
  split
  · obtain ⟨left, hleft⟩ := exists_dropEmpty_append hplain hne kept
    rw [hleft]
    exact ⟨joinSegments left, List.flatMap_append.symm⟩
  · exact ⟨joinSegments kept, List.flatMap_append.symm⟩

end

end Roster.Url
