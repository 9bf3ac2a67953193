import Mathlib.Data.Nat.Digits.Defs
import Roster.Proofs.Yaml.Resolved
import Roster.Yaml.Scalar
/-!
# What tells scalars apart

A text that is written plain starts with no character that has a meaning there, and each of the
other styles starts with one that has, so the first character tells the styles apart. Within a style
a text can be read back: between single quotes because quotes are doubled, between double quotes
because each escape says how long it is.
-/

namespace Roster.Yaml

/-- A text on one line. -/
def Unbroken (s : List Char) : Prop := ∀ c ∈ s, isBreak c = false

/-- Texts are told apart by the codes of their characters if the first character can be taken off
what is written. -/
theorem flatMap_injective {α β : Type} {code : α → List β} {take? : List β → Option (α × List β)}
    (hnil : take? [] = none) (htake : ∀ a rest, take? (code a ++ rest) = some (a, rest)) :
    Function.Injective (List.flatMap code) := by
  intro s
  induction s with
  | nil =>
      intro t h
      cases t with
      | nil => rfl
      | cons b t =>
          have hb := htake b (t.flatMap code)
          rw [← List.flatMap_cons, ← h, List.flatMap_nil, hnil] at hb
          contradiction
  | cons a s ih =>
      intro t h
      have ha := htake a (s.flatMap code)
      rw [← List.flatMap_cons, h] at ha
      cases t with
      | nil =>
          rw [List.flatMap_nil, hnil] at ha
          contradiction
      | cons b t =>
          rw [List.flatMap_cons, htake] at ha
          obtain ⟨rfl, hrest⟩ := Prod.mk.inj (Option.some.inj ha)
          rw [ih hrest.symm]

/-! ### Between single quotes -/

/-- How a character looks between single quotes. -/
def quoteChar (c : Char) : List Char := if c = '\'' then ['\'', '\''] else [c]

theorem singleBody_of_unbroken {s : List Char} (hs : Unbroken s) (indent : Nat) :
    singleBody indent false s = s.flatMap quoteChar := by
  induction s with
  | nil => rfl
  | cons c rest ih =>
      have hc := hs c List.mem_cons_self
      rw [singleBody, ih fun d hd => hs d (List.mem_cons_of_mem c hd), List.flatMap_cons]
      by_cases hblank : c = ' '
      · simp [hblank, quoteChar]
      · simp [hblank, hc, quoteChar]

/-- Takes a character off what stands between single quotes. -/
def takeQuoted? : List Char → Option (Char × List Char)
  | '\'' :: '\'' :: rest => some ('\'', rest)
  | c :: rest => some (c, rest)
  | [] => none

theorem takeQuoted?_quoteChar (c : Char) (rest : List Char) :
    takeQuoted? (quoteChar c ++ rest) = some (c, rest) := by
  by_cases hc : c = '\''
  · simp [quoteChar, hc, takeQuoted?]
  · simp [quoteChar, hc, takeQuoted?]

theorem single_injective {s t : List Char} (hs : Unbroken s) (ht : Unbroken t) {indent : Nat}
    (h : single indent s = single indent t) : s = t := by
  rw [single, single, singleBody_of_unbroken hs, singleBody_of_unbroken ht] at h
  exact flatMap_injective rfl takeQuoted?_quoteChar (List.append_cancel_right (List.cons.inj h).2)

/-! ### Between double quotes -/

/-- What the escapes of one letter stand for. -/
def letters : List (Char × Char) :=
  [('0', '\x00'), ('a', '\x07'), ('b', '\x08'), ('t', '\x09'), ('n', '\x0A'), ('v', '\x0B'),
    ('f', '\x0C'), ('r', '\x0D'), ('e', '\x1B'), ('"', '"'), ('\\', '\\'), ('N', '\u0085'),
    ('L', '\u2028'), ('P', '\u2029')]

/-- Takes the character off whose code point has `width` hexadecimal digits. -/
def takeHex? (width : Nat) (s : List Char) : Option (Char × List Char) :=
  (natIn? 16 (s.take width)).map fun n => (Char.ofNat n, s.drop width)

/-- Takes a character off what stands between double quotes. -/
def takeEscaped? : List Char → Option (Char × List Char)
  | '\\' :: 'x' :: rest => takeHex? 2 rest
  | '\\' :: 'u' :: rest => takeHex? 4 rest
  | '\\' :: 'U' :: rest => takeHex? 8 rest
  | '\\' :: letter :: rest => (letters.lookup letter).map (·, rest)
  | c :: rest => some (c, rest)
  | [] => none

section

variable {width n : Nat}

theorem length_hexDigits (hwidth : 0 < width) (hn : n < 16 ^ width) :
    (hexDigits width n).length = width := by
  have hlength := Nat.toDigits_length 16 n width hwidth hn
  simp [hexDigits]
  omega

theorem digitIn?_upper : ∀ d < 16, digitIn? 16 d.digitChar.toUpper = some d := by decide

theorem natIn?_hexDigits (width n : Nat) : natIn? 16 (hexDigits width n) = some n := by
  have hzeros : ∀ k, (List.replicate k '0').foldl
      (fun n c => do some ((← n) * 16 + (← digitIn? 16 c))) (some 0) = some 0 := by
    intro k
    induction k with
    | zero => rfl
    | succ k ih => rwa [List.replicate_succ, List.foldl_cons]
  rw [natIn?, if_neg (by simp [hexDigits, Nat.toDigits_ne_nil]), hexDigits, List.foldl_append,
    hzeros, foldl_toDigits (by decide) _ digitIn?_upper]

theorem takeHex?_hexDigits (hwidth : 0 < width) (hn : n < 16 ^ width) (rest : List Char) :
    takeHex? width (hexDigits width n ++ rest) = some (Char.ofNat n, rest) := by
  have hlength := length_hexDigits hwidth hn
  rw [takeHex?, List.take_left' hlength, List.drop_left' hlength, natIn?_hexDigits, Option.map_some]

end

/-- A code off which a character can be taken. -/
def Codes (c : Char) (code : List Char) : Prop :=
  ∀ rest, takeEscaped? (code ++ rest) = some (c, rest)

theorem codes_plain {c : Char} (hc : c ≠ '\\') : Codes c [c] := by
  intro rest
  simp [takeEscaped?, hc]

theorem codes_letter {c letter : Char} {n : Nat} (hn : c.toNat = n)
    (hletter : letters.lookup letter = some (Char.ofNat n)) : Codes c ['\\', letter] := by
  have hfree : ∀ mark ∈ ['x', 'u', 'U'], letters.lookup mark = none := by
    simp [letters, List.lookup_cons]
  have hmark : ∀ mark ∈ ['x', 'u', 'U'], letter ≠ mark := by
    rintro mark hmem rfl
    exact absurd hletter (by simp [hfree _ hmem])
  simp only [List.mem_cons, List.not_mem_nil, or_false, forall_eq_or_imp, forall_eq] at hmark
  subst hn
  intro rest
  simp [takeEscaped?, hmark, hletter]

theorem codes_hex {c mark : Char} {width : Nat} (hwidth : 0 < width) (hc : c.toNat < 16 ^ width)
    (hmark : ∀ rest, takeEscaped? ('\\' :: mark :: rest) = takeHex? width rest) :
    Codes c ('\\' :: mark :: hexDigits width c.toNat) := by
  intro rest
  rw [List.cons_append, List.cons_append, hmark, takeHex?_hexDigits hwidth hc, Char.ofNat_toNat]

theorem codes_escapeChar (c : Char) : Codes c (escapeChar c) := by
  have hvalid : c.toNat < 0xD800 ∨ 0xDFFF < c.toNat ∧ c.toNat < 0x110000 := c.valid
  unfold escapeChar
  refine iteInduction (motive := Codes c) (fun hplain => codes_plain ?_) fun _ => ?_
  · simp only [Bool.and_eq_true, bne_iff_ne] at hplain
    exact hplain.2
  iterate 14
    refine iteInduction (motive := Codes c) (fun hn => codes_letter hn rfl) fun _ => ?_
  refine iteInduction (motive := Codes c) (fun hn => ?_) fun _ => ?_
  · exact codes_hex (by decide) (by omega) fun _ => rfl
  refine iteInduction (motive := Codes c) (fun hn => ?_) fun _ => ?_
  · exact codes_hex (by decide) (by omega) fun _ => rfl
  · exact codes_hex (by decide) (by omega) fun _ => rfl

theorem double_injective : Function.Injective double := by
  intro s t h
  exact flatMap_injective rfl codes_escapeChar (List.append_cancel_right (List.cons.inj h).2)

/-! ### The styles -/

/-- How a text looks in its style. -/
inductive Looks (indent : Nat) (s : List Char) : Style → List Char → Prop
  | plain (hword : isAmbiguous s = false) (hstart : startsSyntax s = false) :
      Looks indent s .plain s
  | single : Looks indent s .single (single indent s)
  | double : Looks indent s .double (double s)
  | literal (hlines : '\n' ∈ s) : Looks indent s .literal (literal indent s)

theorem looks_scalar (indent : Nat) (s : List Char) :
    Looks indent s (styleOf s) (scalar indent s) := by
  unfold scalar
  cases hstyle : styleOf s with
  | single => exact .single
  | double => exact .double
  | plain =>
      have hplain : (!isAmbiguous s && allowsPlain s) = true := by
        unfold styleOf at hstyle
        split at hstyle
        · split at hstyle <;> contradiction
        · split at hstyle
          · assumption
          · split at hstyle <;> contradiction
      simp only [allowsPlain, Bool.and_eq_true, Bool.not_eq_true'] at hplain
      exact .plain hplain.1 hplain.2.1.2
  | literal =>
      apply Looks.literal
      unfold styleOf at hstyle
      split at hstyle
      · next hlines => simpa using hlines
      · split at hstyle
        · contradiction
        · split at hstyle <;> contradiction

/-- Something with no meaning stands in front. -/
def Starts (s : List Char) : Prop := ∃ c rest, s = c :: rest ∧ isIndicator c = false

theorem starts_of_plain {s : List Char} (hword : isAmbiguous s = false)
    (hstart : startsSyntax s = false) : Starts s := by
  cases s with
  | nil => contradiction
  | cons c rest =>
      refine ⟨c, rest, rfl, ?_⟩
      unfold startsSyntax at hstart
      split at hstart
      · contradiction
      · contradiction
      · contradiction
      · next heq =>
        obtain ⟨rfl, rfl⟩ := List.cons.inj heq
        exact (Bool.or_eq_false_iff.mp hstart).1

theorem Starts.ne {s : List Char} (h : Starts s) {c : Char} (hc : isIndicator c = true)
    (rest : List Char) : s ≠ c :: rest := by
  rintro rfl
  obtain ⟨d, _, heq, hd⟩ := h
  rw [← (List.cons.inj heq).1, hc] at hd
  contradiction

theorem newline_notMem {s : List Char} (hs : Unbroken s) : '\n' ∉ s := fun hmem =>
  absurd (hs _ hmem) (by decide)

/-- A text on one line leaves the end of the line to what it stands in. -/
theorem endsLine_of_unbroken {s : List Char} (hs : Unbroken s) : endsLine s = false := by
  have hlooks := looks_scalar 0 s
  unfold endsLine
  generalize scalar 0 s = x at hlooks
  generalize styleOf s = style at hlooks ⊢
  cases hlooks with
  | plain => rfl
  | single => rfl
  | double => rfl
  | literal hlines => exact absurd hlines (newline_notMem hs)

theorem eq_of_looks {s t : List Char} (hs : Unbroken s) (ht : Unbroken t) {indent : Nat}
    {style style' : Style} {x : List Char} (h : Looks indent s style x)
    (h' : Looks indent t style' x) : s = t := by
  cases h with
  | plain hword hstart =>
      have hplain := starts_of_plain hword hstart
      cases h' with
      | plain => rfl
      | single => exact absurd rfl (hplain.ne (by decide) _)
      | double => exact absurd rfl (hplain.ne (by decide) _)
      | literal hnewline => exact absurd hnewline (newline_notMem ht)
  | single =>
      generalize hx : single indent s = x at h'
      cases h' with
      | plain hword hstart => exact absurd hx.symm ((starts_of_plain hword hstart).ne (by decide) _)
      | single => exact single_injective hs ht hx
      | double => exact absurd (List.cons.inj hx).1 (by decide)
      | literal hnewline => exact absurd hnewline (newline_notMem ht)
  | double =>
      generalize hx : double s = x at h'
      cases h' with
      | plain hword hstart => exact absurd hx.symm ((starts_of_plain hword hstart).ne (by decide) _)
      | single => exact absurd (List.cons.inj hx).1 (by decide)
      | double => exact double_injective hx
      | literal hnewline => exact absurd hnewline (newline_notMem ht)
  | literal hnewline => exact absurd hnewline (newline_notMem hs)

/-- Texts on one line are told apart by how they are written. -/
theorem scalar_injective {s t : List Char} (hs : Unbroken s) (ht : Unbroken t) {indent : Nat}
    (h : scalar indent s = scalar indent t) : s = t :=
  eq_of_looks hs ht (looks_scalar indent s) (h ▸ looks_scalar indent t)

/-- A text is never written as a word that it would be read as. -/
theorem scalar_append_ne {word : List Char} (hword : isAmbiguous word = true)
    (hstarts : Starts word) (indent : Nat) (s : List Char) :
    scalar indent s ++ (if endsLine s then [] else ['\n']) ≠ word ++ ['\n'] := by
  obtain ⟨c, rest, rfl, hc⟩ := hstarts
  have hlooks := looks_scalar indent s
  unfold endsLine
  generalize scalar indent s = x at hlooks ⊢
  generalize styleOf s = style at hlooks ⊢
  intro heq
  have hmark : ∀ {d : Char}, isIndicator d = true → d ≠ c := by
    rintro d hd rfl
    rw [hc] at hd
    contradiction
  cases hlooks with
  | plain hplain =>
      rw [List.append_cancel_right heq, hword] at hplain
      contradiction
  | single => exact hmark (by decide) (List.cons.inj heq).1
  | double => exact hmark (by decide) (List.cons.inj heq).1
  | literal => exact hmark (by decide) (List.cons.inj heq).1

end Roster.Yaml
