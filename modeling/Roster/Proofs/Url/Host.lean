import Roster.Proofs.Url.Authority
import Roster.Proofs.Url.Domain
/-!
# Hosts as they are written

On the web a host is written as a name that no delimiter divides, or as an address between brackets
with colons in it. Either way it can be told from what stands around it.
-/

namespace Roster.Url

open Text.Normal (delimiters)

/-! ### Numbers -/

theorem notMem_natDigitChar (n : Nat) : Nat.digitChar n ∉ delimiters := by
  simp only [Nat.digitChar, apply_ite (· ∉ delimiters)]
  simp [delimiters]

theorem undivided_toDigits (base n : Nat) : Undivided (Nat.toDigits base n) := by
  have hcore : ∀ (fuel n : Nat) (digits : List Char), Undivided digits →
      Undivided (Nat.toDigitsCore base fuel n digits) := by
    intro fuel
    induction fuel with
    | zero => exact fun _ _ h => h
    | succ fuel ih =>
        intro n digits h
        have hmore := Undivided.cons (notMem_natDigitChar (n % base)) h
        unfold Nat.toDigitsCore
        dsimp only
        split
        · exact hmore
        · exact ih _ _ hmore
  exact hcore _ _ _ nofun

theorem undivided_writeIpv4 (n : Nat) : Undivided (writeIpv4 n) := by
  have hmore : ∀ (m : Nat) {s : List Char}, Undivided s → Undivided (decimal m ++ '.' :: s) :=
    fun m _ h => (undivided_toDigits 10 m).append (.cons (by decide) h)
  unfold writeIpv4
  simp only [List.append_assoc, List.cons_append]
  exact hmore _ (hmore _ (hmore _ (undivided_toDigits 10 _)))

theorem writeIpv4_ne_nil (n : Nat) : writeIpv4 n ≠ [] := by
  simp [writeIpv4]

/-! ### Hosts -/

/-- A text that only colons divide. -/
def Grouped (s : List Char) : Prop := ∀ c ∈ s, c ∈ delimiters → c = ':'

theorem Undivided.grouped {s : List Char} (h : Undivided s) : Grouped s :=
  fun c hc hmem => absurd hmem (h c hc)

theorem Grouped.append {s t : List Char} (hs : Grouped s) (ht : Grouped t) : Grouped (s ++ t) :=
  List.forall_mem_append.mpr ⟨hs, ht⟩

theorem Grouped.cons {s : List Char} (hs : Grouped s) : Grouped (':' :: s) :=
  List.forall_mem_cons.mpr ⟨fun _ => rfl, hs⟩

theorem grouped_joinGroups (groups : List Nat) : Grouped (joinGroups groups) := by
  fun_induction joinGroups groups with
  | case1 => exact nofun
  | case2 g => exact (undivided_toDigits 16 g).grouped
  | case3 g h rest ih => exact (undivided_toDigits 16 g).grouped.append ih.cons

/-- A host of the web as it is written. -/
inductive IsHost : List Char → Prop where
  | name {host : List Char} (hne : host ≠ []) (h : Undivided host) : IsHost host
  | address {groups : List Char} (h : Grouped groups) : IsHost ('[' :: (groups ++ [']']))

theorem isHost_writeIpv6 (groups : List Nat) : IsHost (writeIpv6 groups) := by
  unfold writeIpv6
  dsimp only
  apply IsHost.address
  split
  · exact grouped_joinGroups _
  · refine ((grouped_joinGroups _).append ?_).append (grouped_joinGroups _)
    exact Grouped.cons (Grouped.cons nofun)

theorem isHost_of_readHost {text host : List Char} (h : readHost text = .ok host) :
    IsHost host := by
  unfold readHost at h
  split at h
  · unfold bracketed? at h
    split at h
    · split at h
      · rw [← Except.ok.inj h]
        exact isHost_writeIpv6 _
      · contradiction
    · contradiction
  · split at h
    · contradiction
    · contradiction
    · next hempty hname =>
      split at h
      · split at h
        · rw [← Except.ok.inj h]
          exact .name (writeIpv4_ne_nil _) (undivided_writeIpv4 _)
        · contradiction
      · obtain ⟨name, -, hascii⟩ := Option.bind_eq_some_iff.mp hname
        rw [← Except.ok.inj h]
        exact .name hempty (Domain.undivided_toAscii? hascii)

theorem mem_of_endsAuthority {k : SchemeKind} {c : Char} (h : endsAuthority k c) :
    c ∈ ['/', '\\', '?', '#'] := by
  unfold endsAuthority isSlash at h
  grind

theorem endsAuthority_of_notMem {k : SchemeKind} {c : Char} (hc : c ∉ delimiters) :
    endsAuthority k c = false := by
  have hall : ∀ d ∈ ['/', '\\', '?', '#'], d ∈ delimiters :=
    Text.forall_mem_of_all (by decide)
  rw [Bool.eq_false_iff]
  exact fun hends => hc (hall c (mem_of_endsAuthority hends))

namespace IsHost

variable {host : List Char} (h : IsHost host)

include h

theorem ne_nil : host ≠ [] := by
  cases h with
  | name hne _ => exact hne
  | address _ => exact List.cons_ne_nil _ _

theorem mem_of_delimiter {c : Char} (hc : c ∈ host) (hmem : c ∈ delimiters) :
    c ∈ [':', '[', ']'] := by
  cases h with
  | name _ h => exact absurd hmem (h c hc)
  | address h =>
      rcases List.mem_cons.mp hc with rfl | hc
      · decide
      · rcases List.mem_append.mp hc with hc | hc
        · rw [h c hc hmem]
          decide
        · rw [List.mem_singleton.mp hc]
          decide

theorem endsAuthority_eq_false (k : SchemeKind) {c : Char} (hc : c ∈ host) :
    endsAuthority k c = false := by
  rw [Bool.eq_false_iff]
  intro hends
  have hmem := mem_of_endsAuthority hends
  have hother : ∀ d ∈ ['/', '\\', '?', '#'], d ∈ delimiters ∧ d ∉ [':', '[', ']'] :=
    Text.forall_mem_of_all (by decide)
  exact (hother c hmem).2 (h.mem_of_delimiter hc (hother c hmem).1)

/-- A host is told from what follows it. -/
theorem splitHost_eq (k : SchemeKind) (q : List Char) :
    splitHost k false (host ++ q) = (host ++ (splitHost k false q).1, (splitHost k false q).2) := by
  have hends : ∀ c ∈ host, endsAuthority k c = false := fun c hc => h.endsAuthority_eq_false k hc
  cases h with
  | name _ h =>
      have hother : ∀ c ∈ host, ∀ d ∈ delimiters, c ≠ d := by
        rintro c hc d hd rfl
        exact h c hc hd
      exact splitHost_append (fun c hc => ⟨hends c hc, hother c hc '[' (by decide),
        hother c hc ']' (by decide), fun hcolon => absurd hcolon (hother c hc ':' (by decide))⟩) q
  | @address groups h =>
      have hinside : ∀ c ∈ groups, endsAuthority k c = false ∧ c ≠ '[' ∧ c ≠ ']' ∧
          (c = ':' → true = true) := by
        intro c hc
        refine ⟨hends c (by simp [hc]), ?_, ?_, fun _ => rfl⟩ <;>
        · rintro rfl
          exact absurd (h _ hc (by decide)) (by decide)
      have hopen : endsAuthority k '[' = false := hends '[' (by simp)
      have hclose : endsAuthority k ']' = false := hends ']' (by simp)
      -- The colons are inside the brackets, and what follows the brackets is not.
      rw [List.cons_append, splitHost, if_neg (by simp [hopen]), if_pos rfl]
      dsimp only
      rw [List.append_assoc, splitHost_append hinside, List.singleton_append, splitHost,
        if_neg (by simp [hclose]), if_neg (by decide), if_pos rfl]
      dsimp only
      rw [List.cons_append, List.append_assoc, List.singleton_append]

end IsHost

end Roster.Url
