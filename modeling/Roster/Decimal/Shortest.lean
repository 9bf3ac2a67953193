/-!
# The shortest decimal of a binary number

A finite double is `m · 2^q` for whole numbers `m` and `q`. Among the decimals that round to it, the
one with the fewest digits is taken, of those the one nearest to it. All of it is exact arithmetic
on natural numbers.
-/

namespace Roster.Decimal

/-- A positive binary number `m · 2^q`. `narrow` holds when the next smaller one is only half as far
away as the next larger one. -/
structure Binary where
  m : Nat
  q : Int
  narrow : Bool
  deriving Repr, DecidableEq

/-- The absolute value of a finite double; its sign is `x.toBits >>> 63`. -/
def Binary.ofBits (bits : UInt64) : Binary :=
  let e := ((bits >>> 52) &&& 0x7FF).toNat
  let f := (bits &&& 0xFFFFFFFFFFFFF).toNat
  if e = 0 then ⟨f, -1074, false⟩ else ⟨f + Nat.pow 2 52, (e : Int) - 1075, f = 0 && 1 < e⟩

/-- Digits `d₁d₂…dₙ`, the first not zero, standing for `0.d₁d₂…dₙ · 10^point`. -/
structure Digits where
  digits : List Char
  point : Int
  deriving Repr, DecidableEq

/-- The power `10^k` as a fraction. -/
def tenPow (k : Int) : Nat × Nat :=
  if 0 ≤ k then (Nat.pow 10 k.toNat, 1) else (1, Nat.pow 10 (-k).toNat)

/-- Quarters of a unit `2^q` as a fraction: `n` of them are `n · 2^(q-2)`. -/
def quarters (n : Nat) (q : Int) : Nat × Nat :=
  if 2 ≤ q then (n * Nat.pow 2 (q - 2).toNat, 1) else (n, Nat.pow 2 (2 - q).toNat)

/-- Order of two fractions. -/
def fracLe (a b : Nat × Nat) : Bool := a.1 * b.2 ≤ b.1 * a.2

/-- The least `k` with `b < 10^k`, for positive `b`: an estimate from the binary length, corrected.
-/
def Binary.magnitude (b : Binary) : Int :=
  let v := quarters (4 * b.m) b.q
  let guess := ((Nat.log2 b.m : Int) + b.q) * 1233 / 4096
  if fracLe (tenPow (guess + 1)) v then guess + 2
  else if fracLe (tenPow guess) v then guess + 1
  else guess

/-- Whether `d · 10^k` rounds to `b`: it lies within half a step on either side, the ends included
when `m` is even. -/
def Binary.covers (b : Binary) (d : Nat) (k : Int) : Bool :=
  let t := tenPow k
  let x := (d * t.1, t.2)
  let low := quarters (4 * b.m - if b.narrow then 1 else 2) b.q
  let high := quarters (4 * b.m + 2) b.q
  if b.m % 2 = 0 then fracLe low x && fracLe x high else !fracLe x low && !fracLe high x

/-- The neighbours of `b` on the grid of multiples of `10^k`, and the one of them that rounds to
`b`. Of two the nearer one is taken, and the even one when both are equally near. -/
def Binary.onGrid? (b : Binary) (k : Int) : Option Nat :=
  let v := quarters (4 * b.m) b.q
  let t := tenPow k
  let d := v.1 * t.2 / (v.2 * t.1)
  match b.covers d k, b.covers (d + 1) k with
  | true, true =>
    let twice := 2 * (v.1 * t.2)
    let middle := (2 * d + 1) * (v.2 * t.1)
    if twice < middle ∨ (twice = middle ∧ d % 2 = 0) then some d else some (d + 1)
  | true, false => some d
  | false, true => some (d + 1)
  | false, false => none

/-- The first of the grids with `n`, `n + 1`, … digits that has a decimal for `b`. -/
def Binary.search (b : Binary) (magnitude : Int) : Nat → Nat → Nat × Int
  | n, 0 => ((b.onGrid? (magnitude - n)).getD 0, magnitude - n)
  | n, more + 1 =>
    match b.onGrid? (magnitude - n) with
    | some d => (d, magnitude - n)
    | none => b.search magnitude (n + 1) more

/-- The shortest decimal of a positive binary number; seventeen digits always suffice. -/
def Binary.shortest (b : Binary) : Digits :=
  let (d, k) := b.search b.magnitude 1 16
  let digits := Nat.toDigits 10 d
  let kept := (digits.reverse.dropWhile (· == '0')).reverse
  ⟨kept, k + digits.length⟩

end Roster.Decimal
