import PipeTable.Setting.Style
import PipeTable.Table

/-!
# Completion

A complete table has a delimiter row, and all its rows have the same number of cells. Completing a
table adds what is missing and changes nothing else: a row that is short gets cells at its end,
and a table without a delimiter row gets one after its header. What was typed after the last pipe
of a short row, its right margin, becomes the text of the first cell that is added to it.
-/

namespace PipeTable

namespace Row

/-- Extends the row to a width, each new cell made from its column. The right margin goes away,
since a cell takes its place; a row that is wide enough keeps it. -/
def extendTo (r : Row) (width : Nat) (fill : Nat → Cell) : Row :=
  if width ≤ r.width then r
  else ⟨r.marginLeft, Sequence.extend r.cells width fill, []⟩

/-- Extends a row of contents. Its right margin becomes the first new cell. -/
def complete (width : Nat) (r : Row) : Row :=
  r.extendTo width fun column => if column = r.width then ⟨r.marginRight⟩ else .empty

/-- Extends a delimiter row. Its right margin makes the first new cell as wide as it was. -/
def completeBars (style : Style) (width : Nat) (r : Row) : Row :=
  r.extendTo width fun column =>
    if column = r.width then .bar (max style.minDashes (r.marginRight.length - 2))
    else .bar style.minDashes

/-- A delimiter row of the given width, without margins. -/
def bars (style : Style) (width : Nat) : Row :=
  ⟨[], List.replicate width (.bar style.minDashes), []⟩

/-- An extended row has the cells it had, and as many as are asked for. -/
theorem width_extendTo (r : Row) (width : Nat) (fill : Nat → Cell) :
    (r.extendTo width fill).width = max r.width width := by
  unfold extendTo
  split
  · omega
  · simp [Row.width]

end Row

/-- A completed table. -/
structure Completed where
  table : Table
  /-- Whether the table had no delimiter row of its own. -/
  delimiterInserted : Bool
  deriving DecidableEq, Repr, Inhabited

namespace Table

/-- Completes the parts of a table to a width. -/
def Parts.complete (style : Style) (width : Nat) (p : Parts) : Parts where
  header := p.header.complete width
  delimiter? := some <| match p.delimiter? with
    | some delimiter => delimiter.completeBars style width
    | none => Row.bars style width
  body := p.body.map (Row.complete width)

/-- Completes a table. It has to have a header. -/
def complete (style : Style) (t : Table) : Except Fault Completed :=
  match t.parts? with
  | none => .error .noRows
  | some p => .ok ⟨(p.complete style t.width).toTable, p.delimiter?.isNone⟩

end Table

end PipeTable
