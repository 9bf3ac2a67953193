import Roster.Proofs.Url.Authority
/-!
# What counts in front of a path

Blanks at the beginning of a text do not count, and neither do line breaks in it. Those at its end do
when a path follows. The scheme is found in what is left, whatever follows it.
-/

namespace Roster.Url

variable {scheme p s rest : List Char} {c : Char}

def isIgnored (c : Char) : Bool := c.toNat ≤ 32

def isBreak (c : Char) : Bool := c == '\t' || c == '\n' || c == '\r'

/-- What counts of a text that a path follows. -/
def cleanFront (s : List Char) : List Char := (s.dropWhile isIgnored).filter (!isBreak ·)

theorem clean_eq (s : List Char) :
    clean s =
      ((s.dropWhile isIgnored).reverse.dropWhile isIgnored).reverse.filter (!isBreak ·) := rfl

theorem reverse_dropWhile_reverse {α : Type} {q : α → Bool} {p : List α} (hne : p ≠ [])
    (hp : ∀ a ∈ p, q a = false) (s : List α) : ((s ++ p).reverse.dropWhile q).reverse = s ++ p := by
  have hlast := hp _ (List.getLast_mem hne)
  have hsplit : s ++ p = s ++ p.dropLast ++ [p.getLast hne] := by
    rw [List.append_assoc, List.dropLast_concat_getLast]
  rw [hsplit, List.reverse_concat, List.dropWhile_cons, if_neg (by simp [hlast]),
    List.reverse_cons, List.reverse_reverse]

theorem clean_append (hp : ∀ a ∈ c :: p, isOrdinary a) (s : List Char) :
    clean (s ++ c :: p) = cleanFront s ++ c :: p := by
  have hcounts : ∀ a ∈ c :: p, isIgnored a = false := fun a ha =>
    Bool.not_eq_true' _ ▸ of_isOrdinary (q := (!isIgnored ·)) (by decide +kernel) (hp a ha)
  have hbreak : ∀ a ∈ c :: p, !isBreak a := fun a ha =>
    of_isOrdinary (q := (!isBreak ·)) (by decide +kernel) (hp a ha)
  rw [clean_eq, cleanFront, dropWhile_append_cons (hcounts c List.mem_cons_self),
    reverse_dropWhile_reverse (List.cons_ne_nil c p) hcounts, List.filter_append,
    List.filter_eq_self.mpr hbreak]

theorem splitScheme?_append (s : List Char) :
    splitScheme? (s ++ '/' :: p) =
      (splitScheme? s).map fun parts => (parts.1, parts.2 ++ '/' :: p) := by
  cases s with
  | nil => rfl
  | cons c s =>
      have hslash : isSchemeChar '/' = false := by decide
      have hdrop := dropWhile_append_cons (p := p) hslash (c :: s)
      have htake := takeWhile_append_cons (p := p) hslash (c :: s)
      unfold splitScheme?
      rw [List.cons_append] at hdrop htake ⊢
      dsimp only
      rw [hdrop, htake]
      split
      · cases (c :: s).dropWhile isSchemeChar with
        | nil => rfl
        | cons d rest =>
            by_cases hd : d = ':'
            · subst hd
              rfl
            · rw [List.cons_append]
              split
              · next heq => exact absurd (List.cons.inj heq).1 hd
              · split
                · next heq => exact absurd (List.cons.inj heq).1 hd
                · rfl
      · rfl

theorem hasTail_cleanFront (s : List Char) : hasTail (cleanFront s) = hasTail s := by
  unfold cleanFront
  rw [hasTail_filter (by decide), hasTail_dropWhile (by decide)]

theorem hasTail_of_splitScheme? (h : splitScheme? s = some (scheme, rest)) :
    hasTail rest = hasTail s := by
  unfold splitScheme? at h
  split at h
  · contradiction
  · next a t =>
    split at h
    · split at h
      · next hdrop =>
        obtain ⟨-, rfl⟩ := Prod.mk.inj (Option.some.inj h)
        have htail := hasTail_dropWhile (q := isSchemeChar) (by decide) (a :: t)
        rw [hdrop] at htail
        exact htail
      · contradiction
    · contradiction

end Roster.Url
