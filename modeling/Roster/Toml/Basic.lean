/-!
# TOML values

A document is a table. Values know where they stand in the text: how much of it was left when they
began and when they had ended. Tables that only come about because a key or a heading speaks of
something inside them have no place of their own.
-/

namespace Roster.Toml

/-- The characters left in front of a value and behind it. -/
structure Span where
  start : Nat
  stop : Nat
  deriving Repr, DecidableEq

structure Key where
  name : String
  span : Span
  deriving Repr, DecidableEq

/-- How a table came about, which decides what may still be added to it. -/
inductive Role where
  /-- Written between braces. -/
  | inline
  /-- Has a heading. -/
  | headed
  /-- Part of the heading of another table. -/
  | implied
  /-- Part of a dotted key. -/
  | dotted
  deriving Repr, DecidableEq

inductive Value where
  | string (span : Span) (value : String)
  | integer (span : Span) (value : Int)
  | real (span : Span) (value : Float)
  | bool (span : Span) (value : Bool)
  /-- A date, a time or both, in their written form. -/
  | moment (span : Span) (text : String)
  | array (span : Span) (items : List Value)
  /-- Tables with one heading, the latest last. -/
  | tables (span : Option Span) (items : List Value)
  | table (role : Role) (span : Option Span) (entries : List (Key × Value))

/-- The entries of a table, in the order in which they came about. -/
abbrev Entries := List (Key × Value)

def Value.span? : Value → Option Span
  | .string s _ | .integer s _ | .real s _ | .bool s _ | .moment s _ | .array s _ => some s
  | .tables s _ => s
  | .table _ s _ => s

/-- The value of an entry. -/
def Entries.get? (name : String) : Entries → Option Value
  | [] => none
  | (key, v) :: rest => if key.name = name then some v else Entries.get? name rest

end Roster.Toml
