import Roster.Text.Width
import Roster.Text.Blank
import Roster.Text.Split
import Roster.Fleet.Row
/-!
# Tables

A table has a header and rows of cells. A cell may hold several lines; a row is as tall as its
tallest cell. Each column is as wide as the widest line in it, with a blank on both sides, and lines
lose the blanks at their end. Messages may stand above the table, closed by a dashed line.
-/

namespace Roster

structure Table where
  header : List String
  rows : List (List String)
  deriving Repr, DecidableEq

namespace Table

/-- The lines of a cell; there is always at least one. -/
def cellLines (cell : String) : List (List Char) := Text.splitOn '\n' cell.toList

/-- The columns that a cell takes: those of its widest line. -/
def cellWidth (cell : String) : Nat :=
  (cellLines cell).foldl (fun w line => max w (Text.Width.columns line)) 0

/-- Widths column by column, from those found so far and one more row. -/
def widen : List Nat → List String → List Nat
  | widths, [] => widths
  | [], cell :: cells => cellWidth cell :: widen [] cells
  | w :: widths, cell :: cells => max w (cellWidth cell) :: widen widths cells

/-- The width of each column, at least one; there are as many columns as the longest row has cells.
-/
def widths (t : Table) : List Nat := ((t.header :: t.rows).foldl widen []).map (max 1)

/-- A line of a cell, padded to the width of its column and with a blank on both sides. -/
def padded (width : Nat) (line : List Char) : List Char :=
  ' ' :: line ++ List.replicate (width - Text.Width.columns line) ' ' ++ [' ']

/-- The `k`-th line of a row; a cell without such a line, or a missing cell, stays blank. -/
def rowLine (k : Nat) : List Nat → List (List (List Char)) → List Char
  | [], _ => []
  | w :: widths, [] => padded w [] ++ rowLine k widths []
  | w :: widths, cell :: cells => padded w (cell[k]?.getD []) ++ rowLine k widths cells

/-- How many lines a row takes: those of its tallest cell, and one if it has no cells. -/
def height (cells : List (List (List Char))) : Nat :=
  cells.foldl (fun h cell => max h cell.length) 1

/-- The lines of a row. -/
def rowLines (widths : List Nat) (row : List String) : List (List Char) :=
  let cells := row.map cellLines
  (List.range (height cells)).map fun k => rowLine k widths cells

/-- The lines of a table, header first. A table without columns has none. -/
def lines (t : Table) : List (List Char) :=
  let widths := t.widths
  if widths.isEmpty then []
  else (t.header :: t.rows).flatMap (rowLines widths)

/-- The line under the messages. -/
def ruler : List Char := "-------------".toList

/-- What is printed above a table. -/
def messageLines (messages : List String) : List (List Char) :=
  if messages.isEmpty then [] else messages.map String.toList ++ [ruler]

/-- All that is printed: messages, then the table unless it has no rows. -/
def printed (t : Table) (messages : List String) (indent : Bool) : List (List Char) :=
  messageLines messages ++
    if t.rows.isEmpty then []
    else t.lines.map fun line => (if indent then "    ".toList else []) ++ Text.trimEnd line

/-- Lines as text, each closed by a line feed. -/
def textOf (lines : List (List Char)) : String :=
  String.ofList (lines.flatMap (· ++ ['\n']))

def render (t : Table) (messages : List String) (indent : Bool) : String :=
  textOf (t.printed messages indent)

/-- The table of a list of rows. -/
def ofRows (rows : List Row) : Table := ⟨Row.header, rows.map Row.cells⟩

end Table

end Roster
