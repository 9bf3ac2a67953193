import Mathlib.Data.List.Forall2
import Mathlib.Order.Lattice
import Roster.Fleet.Table
import Roster.Proofs.Text.Blank
/-!
# What a table shows

A table with rows is printed as one block of lines for its header and one for each row. Every line
of every cell stands in a line of its block, because a column is found for each cell and blanks are
only dropped where nothing follows.
-/

namespace Roster

namespace Table

/-! ### Columns -/

/-- Nothing is greater than the maximum that is found from left to right. -/
theorem le_foldl_max {α : Type} (f : α → Nat) (xs : List α) (n : Nat) :
    n ≤ xs.foldl (fun m x => max m (f x)) n ∧
      ∀ x ∈ xs, f x ≤ xs.foldl (fun m x => max m (f x)) n := by
  induction xs generalizing n with
  | nil => exact ⟨le_rfl, nofun⟩
  | cons x rest ih =>
      obtain ⟨hstart, hrest⟩ := ih (max n (f x))
      refine ⟨(le_max_left _ _).trans hstart, ?_⟩
      exact List.forall_mem_cons.mpr ⟨(le_max_right _ _).trans hstart, hrest⟩

theorem length_widen (widths : List Nat) (row : List String) :
    (widen widths row).length = max widths.length row.length := by
  induction row generalizing widths with
  | nil => cases widths <;> simp [widen]
  | cons cell cells ih => cases widths <;> simp [widen, ih, Nat.add_max_add_right]

theorem length_foldl_widen (rows : List (List String)) (widths : List Nat) :
    (rows.foldl widen widths).length =
      rows.foldl (fun n row => max n row.length) widths.length := by
  induction rows generalizing widths with
  | nil => rfl
  | cons row rest ih => rw [List.foldl_cons, ih, length_widen, List.foldl_cons]

/-- There is a column for each cell. -/
theorem length_le_widths (t : Table) {row : List String} (h : row ∈ t.header :: t.rows) :
    row.length ≤ t.widths.length := by
  rw [widths, List.length_map, length_foldl_widen]
  exact (le_foldl_max List.length _ _).2 row h

/-! ### Blocks -/

/-- A block of lines shows a row: it is as tall as the tallest cell, and in its lines stand the
lines of each cell. -/
structure ShowsRow (row : List String) (block : List (List Char)) : Prop where
  nonempty : block ≠ []
  length : block.length = height (row.map cellLines)
  cells : ∀ cell ∈ row, ∀ (k : Nat) (line : List Char), (cellLines cell)[k]? = some line →
    ∃ shown, block[k]? = some shown ∧ Text.trimEnd line <:+: shown

/-- A text is the whole of a table: one block for the header and one for each row. -/
def IsWhole (t : Table) (out : String) : Prop :=
  ∃ blocks, out = textOf blocks.flatten ∧ List.Forall₂ ShowsRow (t.header :: t.rows) blocks

theorem one_le_height (cells : List (List (List Char))) : 1 ≤ height cells :=
  (le_foldl_max List.length cells 1).1

theorem length_le_height {cells : List (List (List Char))} {cell : List (List Char)}
    (h : cell ∈ cells) : cell.length ≤ height cells :=
  (le_foldl_max List.length cells 1).2 cell h

/-- A cell within the columns has its line in the line of the row. -/
theorem exists_rowLine_eq {widths : List Nat} {cells : List (List (List Char))}
    {cell : List (List Char)} {k : Nat} {line : List Char} (hlength : cells.length ≤ widths.length)
    (hcell : cell ∈ cells) (hline : cell[k]? = some line) :
    ∃ front back, rowLine k widths cells = front ++ line ++ back := by
  induction cells generalizing widths with
  | nil => contradiction
  | cons first rest ih =>
      cases widths with
      | nil => simp at hlength
      | cons w widths =>
          rcases List.mem_cons.mp hcell with rfl | hcell
          · refine ⟨[' '], List.replicate (w - Text.Width.columns line) ' ' ++ [' '] ++
              rowLine k widths rest, ?_⟩
            simp [rowLine, padded, hline]
          · obtain ⟨front, back, hrest⟩ := ih (Nat.le_of_succ_le_succ hlength) hcell
            refine ⟨padded w (first[k]?.getD []) ++ front, back, ?_⟩
            simp only [rowLine, hrest, List.append_assoc]

theorem showsRow_rowLines {widths : List Nat} {row : List String}
    (hlength : row.length ≤ widths.length) :
    ShowsRow row ((rowLines widths row).map Text.trimEnd) where
  nonempty := by
    have hpos := one_le_height (row.map cellLines)
    simp only [rowLines, ne_eq, List.map_eq_nil_iff, List.range_eq_nil]
    omega
  length := by simp [rowLines]
  cells cell hcell k line hline := by
    have hmem : cellLines cell ∈ row.map cellLines := List.mem_map_of_mem hcell
    have hk : k < height (row.map cellLines) :=
      (List.getElem?_eq_some_iff.mp hline).1.trans_le (length_le_height hmem)
    obtain ⟨front, back, heq⟩ := exists_rowLine_eq (by simpa using hlength) hmem hline
    refine ⟨Text.trimEnd (rowLine k widths (row.map cellLines)), ?_, ?_⟩
    · simp [rowLines, hk]
    · rw [heq]
      exact Text.trimEnd_infix front line back

/-- A table is printed whole if it has rows and columns. -/
theorem isWhole_render {t : Table} (hheader : t.header ≠ []) (hrows : t.rows ≠ []) :
    t.IsWhole (t.render [] false) := by
  have hwidths : t.widths ≠ [] := by
    intro hnil
    have hlength := t.length_le_widths (List.mem_cons_self (l := t.rows))
    rw [hnil] at hlength
    simp [hheader] at hlength
  let block (row : List String) := (rowLines t.widths row).map Text.trimEnd
  refine ⟨(t.header :: t.rows).map block, ?_, ?_⟩
  · have hlines : t.lines.map Text.trimEnd = ((t.header :: t.rows).map block).flatten := by
      simp only [lines, List.isEmpty_iff, hwidths, if_false, List.map_flatMap]
      rw [List.flatMap_def]
    simp only [render, printed, messageLines, List.isEmpty_nil, if_true, List.isEmpty_iff, hrows,
      if_false, List.nil_append, Bool.false_eq_true]
    rw [← hlines]
  · rw [List.forall₂_map_right_iff, List.forall₂_same]
    intro row hrow
    exact showsRow_rowLines (t.length_le_widths hrow)

end Table

end Roster
