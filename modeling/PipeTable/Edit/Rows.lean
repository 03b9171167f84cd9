import PipeTable.Table

/-!
# Row edits

The header and the row after it stay where they are, so rows are inserted, deleted and moved from
the third place on. Deleting the header blanks its cells. An edit that cannot apply changes
nothing: the partial form of it is none, and the total form is the table as it was.
-/

namespace PipeTable.Table

/-- The first row that may be inserted, deleted and moved. -/
def bodyStart : Nat := 2

/-- Inserts a row at an index, or at the nearest end of the body. -/
def insertRow (index : Int) (r : Row) (t : Table) : Table :=
  ⟨t.rows.insertIdx (min (max index bodyStart).toNat t.height) r⟩

/-- Deletes the row of an index. The header is blanked instead; the second row is never deleted. -/
def deleteRow? (index : Int) (t : Table) : Option Table :=
  if !Sequence.inBounds index t.height || index = 1 then none
  else if index = 0 then
    some ⟨t.rows.modifyHead fun header => header.withCells (header.cells.map fun _ => .empty)⟩
  else some ⟨t.rows.eraseIdx index.toNat⟩

/-- Whether an index is that of a row that may move. -/
def isMovable (t : Table) (index : Int) : Bool := bodyStart ≤ index && index < t.height

/-- Moves the row of an index to another one. -/
def moveRow? (index dest : Int) (t : Table) : Option Table :=
  if index ≠ dest && t.isMovable index && t.isMovable dest then
    some ⟨Sequence.move t.rows index.toNat dest.toNat⟩
  else none

/-- Deletes the row of an index, if it can be deleted. -/
def deleteRow (index : Int) (t : Table) : Table := (t.deleteRow? index).getD t

/-- Moves the row of an index, if both places are in the body. -/
def moveRow (index dest : Int) (t : Table) : Table := (t.moveRow? index dest).getD t

/-- Exactly the second row and the rows out of range cannot be deleted. -/
theorem deleteRow?_eq_none_iff {index : Int} {t : Table} :
    t.deleteRow? index = none ↔ index = 1 ∨ Sequence.inBounds index t.height = false := by
  unfold deleteRow?
  split
  · next h => simpa [or_comm] using h
  · next h => split <;> simp_all

end PipeTable.Table
