import PipeTable.Alignment

/-!
# Points and foci

A cursor is a point of the editor, a line and a column, or a focus on a table: a row, a column of
it, and one of the two ends of what stands there. Formatting changes where a cell begins and ends
but not which cell it is, so a focus outlives it and a point does not.
-/

namespace PipeTable

/-- A place in the text of an editor, between two characters of a line. -/
structure Point where
  row : Int
  column : Int
  deriving DecidableEq, Repr, Inhabited

/-- The text between two points of an editor. -/
structure Selection where
  start : Point
  stop : Point
  deriving DecidableEq, Repr, Inhabited

/-- A place in a table. Column -1 is the left margin, and the column after the last cell is the
right margin. -/
structure Focus where
  row : Int
  column : Int
  /-- Zero at the start of what stands in the column, and any other number at its end. -/
  offset : Int
  deriving DecidableEq, Repr, Inhabited

/-- The number that stands for an end. -/
def Edge.offset : Edge → Int
  | .leading => 0
  | .trailing => 1

namespace Focus

/-- The end that the focus is on. -/
def edge (f : Focus) : Edge := if f.offset = 0 then .leading else .trailing

/-- Whether two foci are on the same cell, at whichever end. -/
def sameCell (f g : Focus) : Bool := f.row = g.row && f.column = g.column

/-- The focus on another row. -/
def withRow (f : Focus) (row : Int) : Focus := { f with row := row }

/-- The focus on another column. -/
def withColumn (f : Focus) (column : Int) : Focus := { f with column := column }

/-- The focus at another end. -/
def withOffset (f : Focus) (offset : Int) : Focus := { f with offset := offset }

/-- A focus is on the end whose number it has. -/
theorem edge_withOffset (f : Focus) (e : Edge) : (f.withOffset e.offset).edge = e := by
  cases e <;> rfl

end Focus

end PipeTable
