import Roster.Api.Endpoint
/-!
# Counts

A count on the command line is a decimal number with or without a sign. Reading goes from left to
right in 64 bits; what has been read must lie between one and the largest count on the wire.
-/

namespace Roster

/-- A number that a list can be asked with. -/
structure Count where
  val : Nat
  one_le : 1 ≤ val
  le_max : val ≤ ListParams.maxCount
  deriving Repr, DecidableEq

namespace Count

def firstPage : Count := ⟨ListParams.firstPage, by decide, by decide⟩

def defaultLimit : Count := ⟨ListParams.defaultSize, by decide, by decide⟩

/-- Why a text is no count. -/
inductive Refusal where
  | empty
  | digit
  | tooLarge
  | tooSmall
  | outside (n : Int)
  deriving Repr, DecidableEq

def Refusal.message : Refusal → String
  | empty => "cannot parse integer from empty string"
  | digit => "invalid digit found in string"
  | tooLarge => "number too large to fit in target type"
  | tooSmall => "number too small to fit in target type"
  | outside n => toString n ++ " is not in 1..=" ++ toString ListParams.maxCount

/-- Reads digits behind a number. The first character that is no digit, or the first digit with
which the number exceeds its limit, decides. -/
def digits (limit : Nat) (overflow : Refusal) : Nat → List Char → Except Refusal Nat
  | n, [] => .ok n
  | n, c :: rest =>
    if !c.isDigit then .error .digit
    else
      let n := n * 10 + (c.toNat - 48)
      if limit < n then .error overflow else digits limit overflow n rest

/-- Reads the digits behind a sign, of which there is at least one. -/
def unsigned (limit : Nat) (overflow : Refusal) : List Char → Except Refusal Nat
  | [] => .error .digit
  | cs => digits limit overflow 0 cs

/-- The whole number of 64 bits that a text holds. -/
def readInt : List Char → Except Refusal Int
  | [] => .error .empty
  | '+' :: rest => (unsigned (Nat.pow 2 63 - 1) .tooLarge rest).map Int.ofNat
  | '-' :: rest => (unsigned (Nat.pow 2 63) .tooSmall rest).map fun n => -(n : Int)
  | cs => (unsigned (Nat.pow 2 63 - 1) .tooLarge cs).map Int.ofNat

/-- The count that a whole number is. -/
def ofInt (n : Int) : Except Refusal Count :=
  if h : 1 ≤ n.toNat ∧ n.toNat ≤ ListParams.maxCount then .ok ⟨n.toNat, h.1, h.2⟩
  else .error (.outside n)

def parse (text : String) : Except Refusal Count := do
  ofInt (← readInt text.toList)

end Count

end Roster
