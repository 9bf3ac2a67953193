import Mathlib.Algebra.GroupWithZero.Nat
import Roster.Proofs.Fleet.Table
import Roster.Proofs.Text.Split
/-!
# The layout of a table

A table has one width for each of its columns, with room for every line of every cell in it. Each
printed line of a row is the same line of all its cells, every one in full and filled up to the width
of its column; only the blanks at the end of the whole line are lost.
-/

namespace Roster

namespace Table

/-! ### What a layout is -/

/-- The lines above a table: the messages and a line of dashes, if there are messages. -/
def above (messages : List String) : List (List Char) :=
  if messages = [] then [] else messages.map String.toList ++ ["-------------".toList]

/-! ### Widths -/

variable {t : Table}

end Table

end Roster
