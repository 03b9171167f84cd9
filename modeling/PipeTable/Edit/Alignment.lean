import PipeTable.Setting.Style
import PipeTable.Table

/-!
# Changing an alignment

The alignment of a column is changed by writing its delimiter cell anew, with the least number of
dashes. A delimiter row that is shorter than the header is extended first. Without a delimiter
row, or outside the header, nothing changes, and the new alignment is not even looked at.
-/

namespace PipeTable

/-- The delimiter row with the alignment of one column changed. -/
def Row.setBar (style : Style) (column width : Nat) (a : Alignment) (r : Row) : Row :=
  r.withCells <|
    (Sequence.extend r.cells width fun _ => .bar style.minDashes).set column
      ⟨delimiterText a style.minDashes⟩

namespace Table

/-- The delimiter row, if the table has one and its header has the column. -/
def alignable? (column : Int) (t : Table) : Option Row :=
  if Sequence.inBounds column (t.headerWidth?.getD 0) then t.delimiterRow? else none

/-- Changes the alignment of a column to the one that a value names. -/
def alterAlignment? (style : Style) (column : Int) (value : Value) (t : Table) :
    Except Fault (Option Table) :=
  match t.alignable? column with
  | none => .ok none
  | some delimiter => do
    let a ← value.toAlignment
    let width := t.headerWidth?.getD 0
    return some ⟨t.rows.set 1 (delimiter.setBar style column.toNat width a)⟩

/-- Changes the alignment of a column, if it can be changed. -/
def alterAlignment (style : Style) (column : Int) (value : Value) (t : Table) :
    Except Fault Table := do
  return (← t.alterAlignment? style column value).getD t

end Table

end PipeTable
