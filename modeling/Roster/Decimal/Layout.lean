import Roster.Decimal.Shortest
/-!
# Writing a number's digits down

A layout says which magnitudes are written out in full and how an exponent looks. A number without
fractional digits keeps a final `.0`, so it is not mistaken for an integer.
-/

namespace Roster.Decimal

/-- How a number is written: in full when `lowest < point ≤ highest`, else with an exponent. -/
structure Layout where
  lowest : Int
  highest : Int
  /-- Write `e+16` rather than `e16`. -/
  plusSign : Bool

/-- Numbers in JSON documents and in what is said about them. -/
def Layout.json : Layout := ⟨-5, 16, true⟩

/-- Numbers in YAML documents. -/
def Layout.yaml : Layout := ⟨-5, 16, false⟩

/-- Every digit written out. -/
def Layout.full : Layout := ⟨-400, 400, false⟩

/-- Digits and decimal point, without a sign. -/
def Layout.write (l : Layout) (d : Digits) : List Char :=
  let n : Int := d.digits.length
  if l.lowest < d.point ∧ d.point ≤ l.highest then
    if d.point ≤ 0 then
      "0.".toList ++ List.replicate (-d.point).toNat '0' ++ d.digits
    else if n ≤ d.point then
      d.digits ++ List.replicate (d.point - n).toNat '0' ++ ".0".toList
    else
      d.digits.take d.point.toNat ++ '.' :: d.digits.drop d.point.toNat
  else
    let e := d.point - 1
    let mantissa := match d.digits with
      | [] => []
      | [c] => [c]
      | c :: rest => c :: '.' :: rest
    let sign := if l.plusSign && 0 ≤ e then "+" else ""
    mantissa ++ ("e" ++ sign ++ toString e).toList

/-- A finite double in a layout. -/
def Layout.float (l : Layout) (x : Float) : List Char :=
  let bits := x.toBits
  let sign := if bits >>> 63 = 1 then ['-'] else []
  let b := Binary.ofBits bits
  sign ++ (if b.m = 0 then "0.0".toList else l.write b.shortest)

end Roster.Decimal
