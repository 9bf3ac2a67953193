import Roster.Text.Split
import Roster.Url.Percent
/-!
# Addresses

IPv4 addresses may be written with one to four numbers in base ten, eight or sixteen; IPv6 addresses
with groups left out and an IPv4 address at the end. Both have one written form.
-/

namespace Roster.Url

/-- A number of an IPv4 address. `none` is no number, `some none` one that is too large. -/
def ipv4Number? (s : List Char) : Option (Option Nat) :=
  let (base, digits) := match s with
    | '0' :: 'x' :: rest | '0' :: 'X' :: rest => (16, rest)
    | '0' :: d :: rest => (8, d :: rest)
    | _ => (10, s)
  if s.isEmpty then none
  else
    let value := digits.foldl (fun (n : Option Nat) c => do
      let d ← hexDigit? c.toNat.toUInt8
      if c.toNat < 128 ∧ d < base then some ((← n) * base + d) else none) (some 0)
    value.map fun n => if n < Nat.pow 2 32 then some n else none

/-- The parts of a host name between its dots. -/
def labels (host : List Char) : List (List Char) := Text.splitOn '.' host

/-- Whether the last part of a host name, a dot at the end aside, is a number. -/
def endsInNumber (host : List Char) : Bool :=
  let last := match (labels host).reverse with
    | [] :: last :: _ => last
    | last :: _ => last
    | [] => []
  if last.isEmpty then false else last.all Char.isDigit || (ipv4Number? last).isSome

/-- An IPv4 address from its numbers: all but the last are bytes, the last fills the rest. -/
def ipv4OfNumbers? (numbers : List Nat) : Option Nat :=
  match numbers.reverse with
  | [] => none
  | last :: before =>
    let k := before.length
    if 3 < k ∨ Nat.pow 2 (32 - 8 * k) ≤ last ∨ before.any (255 < ·) then none
    else
      let high := before.reverse.foldl (fun n b => n * 256 + b) 0
      some (high * Nat.pow 2 (32 - 8 * k) + last)

def ipv4? (host : List Char) : Option Nat := do
  let parts := labels host
  let parts := if parts.getLast? = some [] then parts.dropLast else parts
  let numbers ← parts.mapM fun p => do ← ipv4Number? p
  ipv4OfNumbers? numbers

def decimal (n : Nat) : List Char := Nat.toDigits 10 n

def writeIpv4 (n : Nat) : List Char :=
  decimal (n / Nat.pow 2 24) ++ '.' :: decimal (n / Nat.pow 2 16 % 256) ++
    '.' :: decimal (n / Nat.pow 2 8 % 256) ++ '.' :: decimal (n % 256)

/-! ### IPv6 -/

def hexValue? (c : Char) : Option Nat :=
  if c.toNat < 128 then hexDigit? c.toNat.toUInt8 else none

/-- The number of up to four digits and how many there are. -/
def takeHex (fuel : Nat) (value : Nat) (s : List Char) : Nat × List Char × Nat :=
  match fuel, s with
  | 0, _ => (value, s, 0)
  | _, [] => (value, [], 0)
  | fuel + 1, c :: rest =>
    match hexValue? c with
    | some d =>
      let (v, left, n) := takeHex fuel (value * 16 + d) rest
      (v, left, n + 1)
    | none => (value, s, 0)

/-- One number of an IPv4 address inside an IPv6 address: no zeros in front, at most 255. -/
def takeByte? (s : List Char) : Option (Nat × List Char) :=
  let digits := s.takeWhile Char.isDigit
  let rest := s.dropWhile Char.isDigit
  let value := digits.foldl (fun n c => n * 10 + (c.toNat - 48)) 0
  if digits.isEmpty ∨ 255 < value ∨ (digits.head? = some '0' ∧ 1 < digits.length) then none
  else some (value, rest)

/-- The two groups that an IPv4 address fills; nothing may follow it. -/
def embeddedIpv4? (s : List Char) : Option (List Nat) := do
  let (a, rest) ← takeByte? s
  let '.' :: rest := rest | none
  let (b, rest) ← takeByte? rest
  let '.' :: rest := rest | none
  let (c, rest) ← takeByte? rest
  let '.' :: rest := rest | none
  let (d, rest) ← takeByte? rest
  if rest.isEmpty then some [a * 256 + b, c * 256 + d] else none

/-- The groups read so far, and where groups were left out. -/
structure Groups where
  groups : List Nat
  gap : Option Nat

/-- How many of the eight places are taken; what was left out stands for at least one. -/
def Groups.places (g : Groups) : Nat := g.groups.length + if g.gap.isSome then 1 else 0

/-- Reads groups up to the end of the address. -/
def readGroups? : Nat → Groups → List Char → Option Groups
  | 0, _, _ => none
  | _, g, [] => some g
  | fuel + 1, g, c :: rest =>
    if g.places = 8 then none
    else if c = ':' then
      if g.gap.isSome then none
      else readGroups? fuel ⟨g.groups, some g.groups.length⟩ rest
    else
      let (value, left, n) := takeHex 4 0 (c :: rest)
      match left with
      | '.' :: _ =>
        if n = 0 ∨ 6 < g.places then none
        else (embeddedIpv4? (c :: rest)).map fun pair => ⟨g.groups ++ pair, g.gap⟩
      | ':' :: [] => none
      | ':' :: after => readGroups? fuel ⟨g.groups ++ [value], g.gap⟩ after
      | [] => some ⟨g.groups ++ [value], g.gap⟩
      | _ :: _ => none

/-- The eight groups of an address. -/
def ipv6? (s : List Char) : Option (List Nat) := do
  let start ← match s with
    | ':' :: ':' :: rest => some (⟨[], some 0⟩, rest)
    | ':' :: _ => none
    | _ => some (⟨[], none⟩, s)
  let g ← readGroups? (s.length + 1) start.1 start.2
  match g.gap with
  | some k =>
    some (g.groups.take k ++ List.replicate (8 - g.groups.length) 0 ++ g.groups.drop k)
  | none => if g.groups.length = 8 then some g.groups else none

/-- The length of the run of zeros in front. -/
def zeroRun : List Nat → Nat
  | 0 :: rest => zeroRun rest + 1
  | _ => 0

/-- The first of the longest runs of zeros: where it starts and its length. -/
def longestZeros : List Nat → Nat → Nat × Nat
  | [], at_ => (at_, 0)
  | g :: rest, at_ =>
    let here := zeroRun (g :: rest)
    let (later, n) := longestZeros rest (at_ + 1)
    if n ≤ here then (at_, here) else (later, n)

def hexGroup (n : Nat) : List Char := Nat.toDigits 16 n

def joinGroups : List Nat → List Char
  | [] => []
  | [g] => hexGroup g
  | g :: h :: rest => hexGroup g ++ ':' :: joinGroups (h :: rest)

/-- An address in brackets, the longest run of at least two zero groups left out. -/
def writeIpv6 (groups : List Nat) : List Char :=
  let (start, n) := longestZeros groups 0
  let body :=
    if n < 2 then joinGroups groups
    else joinGroups (groups.take start) ++ "::".toList ++ joinGroups (groups.drop (start + n))
  '[' :: body ++ [']']

end Roster.Url
