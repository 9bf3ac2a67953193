/-!
# Punycode

A label with characters outside ASCII is written with its ASCII characters first and then, in
ascending order, where each other character goes: distances in digits of base 36 whose thresholds
follow a bias.
-/

namespace Roster.Url.Punycode

/-- Letters count from zero, digits from 26. -/
def digitChar (d : Nat) : Char := Char.ofNat (if d < 26 then 97 + d else 22 + d)

def digit? (c : Char) : Option Nat :=
  if 'a' ≤ c ∧ c ≤ 'z' then some (c.toNat - 97)
  else if 'A' ≤ c ∧ c ≤ 'Z' then some (c.toNat - 65)
  else if '0' ≤ c ∧ c ≤ '9' then some (c.toNat - 22)
  else none

/-- The threshold of the digit at place `k`, counted in steps of 36. -/
def threshold (k bias : Nat) : Nat :=
  if k ≤ bias then 1 else if bias + 26 ≤ k then 26 else k - bias

theorem threshold_bounds (k bias : Nat) : 1 ≤ threshold k bias ∧ threshold k bias ≤ 26 := by
  unfold threshold
  split
  · omega
  · split <;> omega

/-- How often a distance has to be divided by 35 until it is small, as a multiple of 36. -/
def scale (delta k : Nat) : Nat :=
  if 455 < delta then scale (delta / 35) (k + 36) else k + 36 * delta / (delta + 38)
termination_by delta
decreasing_by omega

/-- The bias after a distance, when `count` characters have been placed. -/
def adapt (delta count : Nat) (first : Bool) : Nat :=
  let delta := if first then delta / 700 else delta / 2
  scale (delta + delta / count) 0

/-- A distance in digits. -/
def writeDistance (bias k q : Nat) : List Char :=
  let t := threshold k bias
  if q < t then [digitChar q]
  else digitChar (t + (q - t) % (36 - t)) :: writeDistance bias (k + 36) ((q - t) / (36 - t))
termination_by q
decreasing_by
  have := threshold_bounds k bias
  exact Nat.lt_of_le_of_lt (Nat.div_le_self _ _) (by omega)

/-- A writer between two characters: the distance passed since the last one, the bias, and how many
characters have been placed. -/
structure Writer where
  out : List Char
  delta : Nat
  bias : Nat
  count : Nat

/-- Passes one character of the label while those equal to `n` are placed. -/
def Writer.pass (basic n : Nat) (w : Writer) (c : Char) : Writer :=
  if c.toNat < n then { w with delta := w.delta + 1 }
  else if c.toNat = n then
    ⟨w.out ++ writeDistance w.bias 36 w.delta, 0, adapt w.delta (w.count + 1) (w.count = basic),
      w.count + 1⟩
  else w

/-- Places the characters of the given ascending code points, `n` being the next one possible. -/
def Writer.places (label : List Char) (basic : Nat) : List Nat → Nat → Writer → Writer
  | [], _, w => w
  | m :: more, n, w =>
    let w := { w with delta := w.delta + (m - n) * (w.count + 1) }
    let w := label.foldl (Writer.pass basic m) w
    places label basic more (m + 1) { w with delta := w.delta + 1 }

/-- Ascending and each once. -/
def insertSorted (n : Nat) : List Nat → List Nat
  | [] => [n]
  | m :: rest =>
    if n < m then n :: m :: rest else if n = m then m :: rest else m :: insertSorted n rest

def encode (label : List Char) : List Char :=
  let basic := label.filter (·.toNat < 128)
  let others := (label.filter (128 ≤ ·.toNat)).foldl (fun ns c => insertSorted c.toNat ns) []
  let w := Writer.places label basic.length others 128 ⟨[], 0, 72, basic.length⟩
  (if basic.isEmpty then [] else basic ++ ['-']) ++ w.out

/-- A reader: the label so far, the place and code point reached, the bias, and the distance being
read with the weight and place of its next digit. -/
structure Reader where
  label : List Char
  index : Nat
  code : Nat
  bias : Nat
  distance : Nat
  weight : Nat
  k : Nat

/-- Reads digits; a label may not end within a distance. -/
def Reader.readAll (r : Reader) : List Char → Option (List Char)
  | [] => if r.k = 36 then some r.label else none
  | c :: rest => do
    let d ← digit? c
    let distance := r.distance + d * r.weight
    let t := threshold r.k r.bias
    if d < t then
      let count := r.label.length + 1
      let place := r.index + distance
      let code := r.code + place / count
      let index := place % count
      if code < 0x110000 ∧ ¬(0xD800 ≤ code ∧ code < 0xE000) then
        let label := r.label.take index ++ Char.ofNat code :: r.label.drop index
        readAll ⟨label, index + 1, code, adapt distance count (r.index = 0), 0, 1, 36⟩ rest
      else none
    else
      readAll { r with distance := distance, weight := r.weight * (36 - t), k := r.k + 36 } rest

/-- The label behind its encoded form: what stands before the last hyphen, then the rest in place. A
hyphen in front separates nothing. -/
def decode? (s : List Char) : Option (List Char) :=
  let tail := (s.reverse.takeWhile (· ≠ '-')).reverse
  let basic := (s.take (s.length - tail.length)).dropLast
  if basic.any (128 ≤ ·.toNat) then none
  else Reader.readAll ⟨basic, 0, 128, 72, 0, 1, 36⟩ (if basic.isEmpty then s else tail)

end Roster.Url.Punycode
