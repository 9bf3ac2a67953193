/-!
# Characters from bytes

UTF-8 as in the Unicode standard: no overlong forms, no surrogates, nothing above U+10FFFF.
`takeChar?` reads one character from the front, `decode?` a whole sequence.
-/

namespace Roster.Text.Utf8

/-- A continuation byte between `low` and `high`, as its six payload bits. -/
def tail? (low high : Nat) (b : UInt8) : Option Nat :=
  if low ≤ b.toNat ∧ b.toNat ≤ high then some (b.toNat - 0x80) else none

/-- The character at the front and what follows it; `none` when no character stands there. -/
def takeChar? : List UInt8 → Option (Char × List UInt8)
  | [] => none
  | a :: rest =>
    let n := a.toNat
    if n < 0x80 then some (Char.ofNat n, rest)
    else if 0xC2 ≤ n ∧ n ≤ 0xDF then
      match rest with
      | b :: rest => do
        let x ← tail? 0x80 0xBF b
        some (Char.ofNat ((n - 0xC0) * 64 + x), rest)
      | [] => none
    else if 0xE0 ≤ n ∧ n ≤ 0xEF then
      match rest with
      | b :: c :: rest => do
        let x ← tail? (if n = 0xE0 then 0xA0 else 0x80) (if n = 0xED then 0x9F else 0xBF) b
        let y ← tail? 0x80 0xBF c
        some (Char.ofNat (((n - 0xE0) * 64 + x) * 64 + y), rest)
      | _ => none
    else if 0xF0 ≤ n ∧ n ≤ 0xF4 then
      match rest with
      | b :: c :: d :: rest => do
        let x ← tail? (if n = 0xF0 then 0x90 else 0x80) (if n = 0xF4 then 0x8F else 0xBF) b
        let y ← tail? 0x80 0xBF c
        let z ← tail? 0x80 0xBF d
        some (Char.ofNat ((((n - 0xF0) * 64 + x) * 64 + y) * 64 + z), rest)
      | _ => none
    else none

theorem length_of_takeChar? {bytes rest : List UInt8} {c : Char}
    (h : takeChar? bytes = some (c, rest)) : rest.length < bytes.length := by
  unfold takeChar? at h
  split at h
  · simp at h
  · dsimp only at h
    split at h
    · simp_all
    · split at h
      · split at h
        · simp only [Option.bind_eq_bind, Option.bind_eq_some_iff, Option.some.injEq,
            Prod.mk.injEq] at h
          obtain ⟨_, _, _, rfl⟩ := h
          simp only [List.length_cons]; omega
        · simp at h
      · split at h
        · split at h
          · simp only [Option.bind_eq_bind, Option.bind_eq_some_iff, Option.some.injEq,
              Prod.mk.injEq] at h
            obtain ⟨_, _, _, _, _, rfl⟩ := h
            simp only [List.length_cons]; omega
          · simp at h
        · split at h
          · split at h
            · simp only [Option.bind_eq_bind, Option.bind_eq_some_iff, Option.some.injEq,
                Prod.mk.injEq] at h
              obtain ⟨_, _, _, _, _, _, _, rfl⟩ := h
              simp only [List.length_cons]; omega
            · simp at h
          · simp at h

/-- A whole byte sequence as characters, `none` when any part of it is not UTF-8. -/
def decode? (bytes : List UInt8) : Option (List Char) :=
  match _h : takeChar? bytes with
  | some (c, rest) => (decode? rest).map (c :: ·)
  | none => if bytes.isEmpty then some [] else none
termination_by bytes.length
decreasing_by exact length_of_takeChar? _h

end Roster.Text.Utf8
