import PipeTable.Cursor.Span

/-!
# Points of a table

An editor shows the rows of a table on consecutive lines, the first of them on some line of its
own. Points on these lines are mapped to foci on the table, and foci back to points. A point or a
focus on no row of the table has no counterpart.
-/

namespace PipeTable.Table

/-- The focus of a point, where the table starts on line `firstLine`. -/
def focusOf? (t : Table) (p : Point) (firstLine : Int) : Option Focus :=
  (t.row? (p.row - firstLine)).map fun r =>
    ⟨p.row - firstLine, r.columnAt p.column, (r.edgeAt p.column).offset⟩

/-- The point of a focus, where the table starts on line `firstLine`. -/
def pointOf? (t : Table) (f : Focus) (firstLine : Int) : Option Point :=
  (t.row? f.row).map fun r => ⟨f.row + firstLine, r.placeOf f.column f.edge⟩

/-- The cell that a focus is on, if it is on one. -/
def focusedCell? (t : Table) (f : Focus) : Option Cell := t.cell? f.row f.column

/-- The selection of the content of the cell that a focus is on; none for a blank cell. -/
def selection? (t : Table) (f : Focus) (firstLine : Int) : Option Selection :=
  match t.row? f.row with
  | none => none
  | some r =>
    match r.cell? f.column with
    | none => none
    | some c =>
      if c.content = [] then none
      else
        let line := f.row + firstLine
        let start := (r.span f.column).start + c.paddingLeft
        some ⟨⟨line, start⟩, ⟨line, start + c.content.length⟩⟩

/-- A point has a focus exactly when its line is one of the table's. -/
theorem isSome_focusOf? (t : Table) (p : Point) (firstLine : Int) :
    (t.focusOf? p firstLine).isSome =
      Sequence.inBounds (p.row - firstLine) t.height := by
  simp [focusOf?, row?, height, Sequence.isSome_get?]

end PipeTable.Table
