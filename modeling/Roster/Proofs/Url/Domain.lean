import Roster.Proofs.Outcome
import Roster.Proofs.Text.Normal
import Roster.Proofs.Text.Split
import Roster.Url.Domain
/-!
# Domain names are not divided

The ASCII form of a domain name has none of the marks that an address is divided by, however the name
was written: they are refused before anything is composed, composing makes no new ones, and what
Punycode encodes or stands for has none that were not there.
-/

namespace Roster

namespace Url

open Text.Normal (delimiters)

/-- A text without delimiters. -/
def Undivided (s : List Char) : Prop := ∀ c ∈ s, c ∉ delimiters

instance (s : List Char) : Decidable (Undivided s) := List.decidableBAll _ s

theorem toNat_of_delimiter : ∀ c ∈ delimiters, c.toNat ≠ 0 ∧ c.toNat < 128 :=
  Text.forall_mem_of_all (by decide)

theorem notMem_of_ofNat {n : Nat} (h : 128 ≤ n) : Char.ofNat n ∉ delimiters := by
  intro hmem
  obtain ⟨hzero, hlt⟩ := toNat_of_delimiter _ hmem
  have heq := Text.eq_toNat_of_ofNat_eq rfl hzero
  omega

theorem Undivided.append {s t : List Char} (hs : Undivided s) (ht : Undivided t) :
    Undivided (s ++ t) :=
  List.forall_mem_append.mpr ⟨hs, ht⟩

theorem Undivided.cons {c : Char} {s : List Char} (hc : c ∉ delimiters) (hs : Undivided s) :
    Undivided (c :: s) :=
  List.forall_mem_cons.mpr ⟨hc, hs⟩

theorem Undivided.of_subset {s t : List Char} (ht : Undivided t) (h : s ⊆ t) : Undivided s :=
  fun c hc => ht c (h hc)

theorem Undivided.compose {s : List Char} (h : Undivided s) :
    Undivided (Text.Normal.compose s) :=
  fun c hc hmem => h c ((Text.Normal.inert_of_delimiter hmem).mem_of_mem_compose hc) hmem

/-! ### Punycode -/

namespace Punycode

theorem notMem_digitChar : ∀ d < 36, digitChar d ∉ delimiters := by decide

theorem undivided_writeDistance (bias k q : Nat) : Undivided (writeDistance bias k q) := by
  fun_induction writeDistance bias k q with
  | case1 k q t hlt =>
      have hbound := (threshold_bounds k bias).2
      intro c hc
      rw [List.mem_singleton.mp hc]
      exact notMem_digitChar q (by omega)
  | case2 k q t hlt ih =>
      have hbound := threshold_bounds k bias
      have hmod : (q - t) % (36 - t) < 36 - t := Nat.mod_lt _ (by omega)
      exact .cons (notMem_digitChar _ (by omega)) ih

theorem undivided_pass {basic n : Nat} {w : Writer} (h : Undivided w.out) (c : Char) :
    Undivided (w.pass basic n c).out := by
  unfold Writer.pass
  split
  · exact h
  · split
    · exact h.append (undivided_writeDistance _ _ _)
    · exact h

theorem undivided_places {label : List Char} {basic : Nat} (codes : List Nat) {n : Nat} {w : Writer}
    (h : Undivided w.out) : Undivided (Writer.places label basic codes n w).out := by
  have hpasses : ∀ (m : Nat) (s : List Char) (w : Writer), Undivided w.out →
      Undivided (s.foldl (Writer.pass basic m) w).out := by
    intro m s
    induction s with
    | nil => exact fun _ h => h
    | cons c s ih => exact fun w h => ih _ (undivided_pass h c)
  induction codes generalizing n w with
  | nil => exact h
  | cons m codes ih => exact ih (hpasses m label _ h)

theorem undivided_encode {label : List Char} (h : Undivided label) : Undivided (encode label) := by
  have hbasic : Undivided (label.filter (·.toNat < 128)) := h.of_subset List.filter_sublist.subset
  have hout : ∀ codes : List Nat, Undivided (Writer.places label
      (label.filter (·.toNat < 128)).length codes 128
      ⟨[], 0, 72, (label.filter (·.toNat < 128)).length⟩).out :=
    fun codes => undivided_places codes nofun
  unfold encode
  dsimp only
  split
  · exact Undivided.append nofun (hout _)
  · exact (hbasic.append (by decide : Undivided ['-'])).append (hout _)

theorem undivided_readAll {r : Reader} {s label : List Char} (h : r.readAll s = some label)
    (hcode : 128 ≤ r.code) (hlabel : Undivided r.label) : Undivided label := by
  induction s generalizing r with
  | nil =>
      unfold Reader.readAll at h
      split at h
      · rwa [← Option.some.inj h]
      · contradiction
  | cons c s ih =>
      unfold Reader.readAll at h
      obtain ⟨d, -, h⟩ := Option.bind_eq_some_iff.mp h
      dsimp only at h
      split at h
      · split at h
        · refine ih h ?_ ?_
          · exact Nat.le_trans hcode (Nat.le_add_right _ _)
          · -- What is put in has a code of 128 or more, and no delimiter has.
            have hnew := notMem_of_ofNat (Nat.le_trans hcode (Nat.le_add_right r.code
              ((r.index + (r.distance + d * r.weight)) / (r.label.length + 1))))
            refine Undivided.append (hlabel.of_subset (List.take_subset _ _)) ?_
            exact .cons hnew (hlabel.of_subset (List.drop_subset _ _))
        · contradiction
      · exact ih h hcode hlabel

theorem undivided_decode? {s label : List Char} (h : decode? s = some label) (hs : Undivided s) :
    Undivided label := by
  unfold decode? at h
  dsimp only at h
  split at h
  · contradiction
  · refine undivided_readAll h (Nat.le_refl 128) (hs.of_subset ?_)
    exact List.Subset.trans (List.dropLast_subset _) (List.take_subset _ _)

end Punycode

/-! ### Names -/

namespace Domain

theorem undivided_readLabel? {label read : List Char} (h : readLabel? label = some read)
    (hlabel : Undivided label) : Undivided read := by
  unfold readLabel? at h
  split at h
  · obtain ⟨decoded, hdecoded, h⟩ := Option.bind_eq_some_iff.mp h
    split at h
    · contradiction
    · rw [← Option.some.inj h]
      exact Punycode.undivided_decode? hdecoded (hlabel.of_subset (List.drop_subset _ _))
  · rwa [← Option.some.inj h]

theorem undivided_writeLabel {label : List Char} (h : Undivided label) :
    Undivided (writeLabel label) := by
  unfold writeLabel
  split
  · exact h
  · exact (show Undivided codedMark by decide).append (Punycode.undivided_encode h)

theorem isForbidden_of_delimiter : ∀ c ∈ delimiters, isForbidden c :=
  Text.forall_mem_of_all (by decide)

/-- Whatever a name was, no delimiter is left of it in ASCII. -/
theorem undivided_toAscii? {name written : List Char} (h : toAscii? name = some written) :
    Undivided written := by
  unfold toAscii? at h
  obtain ⟨mapped, -, h⟩ := Option.bind_eq_some_iff.mp h
  split at h
  · contradiction
  · next hallowed =>
    -- A name with a delimiter is refused here, and none of the later steps makes one.
    have hmapped : Undivided mapped := by
      intro c hc hmem
      exact hallowed (List.any_eq_true.mpr ⟨c, hc, isForbidden_of_delimiter c hmem⟩)
    obtain ⟨labels, hlabels, h⟩ := Option.bind_eq_some_iff.mp h
    dsimp only at h
    split at h
    · rw [← Option.some.inj h]
      intro c hc
      rcases Text.mem_of_mem_joinWith hc with rfl | ⟨part, hpart, hc⟩
      · decide
      · obtain ⟨label, hlabel, rfl⟩ := List.mem_map.mp hpart
        obtain ⟨given, hgiven, hread⟩ := exists_of_mem_forall₂ (mapM_eq_some_iff.mp hlabels) hlabel
        have hparts : Undivided given :=
          hmapped.compose.of_subset fun _ => Text.mem_of_mem_splitOn hgiven
        exact undivided_writeLabel (undivided_readLabel? hread hparts) c hc
    · contradiction

end Domain

end Url

end Roster
