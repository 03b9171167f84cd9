import PipeTable.Cell
import PipeTable.Segment

/-!
# Rows

A row is a line of a table: cells between pipes, and the texts outside the outer pipes. A line
that is all margin has no cells, and is written as its left margin alone.
-/

namespace PipeTable

/-- A line of a table. -/
structure Row where
  marginLeft : Text
  cells : List Cell
  marginRight : Text
  deriving DecidableEq, Repr, Inhabited

namespace Row

/-- The number of cells. -/
def width (r : Row) : Nat := r.cells.length

/-- The cell of an index, if there is one. -/
def cell? (r : Row) (column : Int) : Option Cell := Sequence.get? r.cells column

/-- Whether the row could be a delimiter row: it has cells, and all of them are delimiter cells. -/
def isDelimiter (r : Row) : Bool := !r.cells.isEmpty && r.cells.all (·.isDelimiter)

/-- The texts that the pipes of a row with cells separate: margin, cells and margin. -/
def pieces (r : Row) : List Text := r.marginLeft :: r.cells.map (·.raw) ++ [r.marginRight]

/-- The row as text. -/
def text (r : Row) : Text :=
  if r.cells = [] then r.marginLeft else List.intercalate [pipe] r.pieces

/-- The row with other cells. -/
def withCells (r : Row) (cells : List Cell) : Row := { r with cells := cells }

/-- The alignments that the cells of a row declare. -/
def alignments (r : Row) : List Alignment := r.cells.map (·.alignment)

@[simp] theorem width_withCells (r : Row) (cells : List Cell) :
    (r.withCells cells).width = cells.length := rfl

/-- A row with cells has two more pieces than cells. -/
@[simp] theorem length_pieces (r : Row) : r.pieces.length = r.width + 2 := by
  simp [pieces, width]

end Row

end PipeTable
