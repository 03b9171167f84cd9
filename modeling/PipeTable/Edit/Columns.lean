import PipeTable.Setting.Style
import PipeTable.Table

/-!
# Column edits

A column is inserted, deleted or moved in every row at once. Rows that are too short for it are
extended with empty cells, and no row loses its last cell. In the delimiter row the new cells are
delimiter cells without an alignment, where a column is inserted or its only cell deleted; moving
a column extends it like every other row. An index out of range changes nothing.
-/

namespace PipeTable

namespace Row

/-- Puts a cell at a column, after as many empty ones as the row lacks. -/
def insertCell (column : Nat) (c : Cell) (r : Row) : Row :=
  r.withCells ((Sequence.extend r.cells column fun _ => .empty).insertIdx column c)

/-- Takes out the cell of a column. A row with a single cell has it replaced by another one. -/
def deleteCell (column : Nat) (last : Cell) (r : Row) : Row :=
  if r.width ≤ column then r
  else if r.width ≤ 1 then r.withCells [last]
  else r.withCells (r.cells.eraseIdx column)

/-- Moves the cell of a column to another one, extending the row so that it has both. -/
def moveCell (column dest : Nat) (r : Row) : Row :=
  r.withCells <|
    Sequence.move (Sequence.extend r.cells (max column dest + 1) fun _ => .empty) column dest

end Row

namespace Table

/-- Changes every row on its own, the delimiter row by a function of its own. -/
def mapRows (content bars : Row → Row) (t : Table) : Table :=
  match t.rows with
  | header :: second :: rest =>
    ⟨content header :: (if second.isDelimiter then bars second else content second) ::
      rest.map content⟩
  | rows => ⟨rows.map content⟩

/-- The cells that a new column gets, from the top: the given ones for the rows of contents, empty
ones when these run out, and a bar for the delimiter row. -/
def newCells (style : Style) (cells : List Cell) (t : Table) : List Cell :=
  match t.delimiterRow? with
  | some _ => cells.headD .empty :: .bar style.minDashes ::
      Sequence.extend cells.tail (t.height - 2) fun _ => .empty
  | none => Sequence.extend cells t.height fun _ => .empty

/-- Inserts a column at an index, which may be one past the last. -/
def insertColumn? (style : Style) (index : Int) (cells : List Cell) (t : Table) : Option Table :=
  if Sequence.inBounds index (t.width + 1) then
    some ⟨(t.newCells style cells).zipWith (fun c r => r.insertCell index.toNat c) t.rows⟩
  else none

/-- Deletes the column of an index. -/
def deleteColumn? (style : Style) (index : Int) (t : Table) : Option Table :=
  if Sequence.inBounds index t.width then
    some (t.mapRows (Row.deleteCell index.toNat .empty)
      (Row.deleteCell index.toNat (.bar style.minDashes)))
  else none

/-- Moves the column of an index to another one. -/
def moveColumn? (index dest : Int) (t : Table) : Option Table :=
  if index ≠ dest && Sequence.inBounds index t.width && Sequence.inBounds dest t.width then
    some ⟨t.rows.map (Row.moveCell index.toNat dest.toNat)⟩
  else none

/-- Inserts a column, if the index is in range. -/
def insertColumn (style : Style) (index : Int) (cells : List Cell) (t : Table) : Table :=
  (t.insertColumn? style index cells).getD t

/-- Deletes a column, if there is one of the index. -/
def deleteColumn (style : Style) (index : Int) (t : Table) : Table :=
  (t.deleteColumn? style index).getD t

/-- Moves a column, if there is one of either index. -/
def moveColumn (index dest : Int) (t : Table) : Table := (t.moveColumn? index dest).getD t

/-- Rows are neither added nor removed. -/
@[simp] theorem height_mapRows (content bars : Row → Row) (t : Table) :
    (t.mapRows content bars).height = t.height := by
  obtain ⟨rows⟩ := t
  match rows with
  | [] | [_] | _ :: _ :: _ => simp [mapRows, height]

end Table

end PipeTable
