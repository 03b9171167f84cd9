import PipeTable.Proofs.Edit.Columns
import PipeTable.Proofs.Edit.Rows

/-!
# Undoing edits

A row that was inserted is deleted at the place where it went, and a move is undone by the move
back, whether it has moved anything or not.  A column edit is undone in every row separately
(`Row.deleteCell_insertCell`, `Row.moved_moved`), but only where the row has not been extended to
make room for it: a ragged table does not get its short rows back.  So the main statement,
`edits_undone`, asks for equally many cells in all rows where columns are concerned, and for at
least one, since deleting a column leaves a row its last cell.
-/

namespace PipeTable

/-! ## Rows -/

namespace Row

variable {r : Row} {column dest : Nat}

lemma deleteCell_insertCell (hcolumn : column ≤ r.width) (hpos : 0 < r.width) (c last : Cell) :
    (r.insertCell column c).deleteCell column last = r := by
  have hwidth : (r.insertCell column c).width = r.width + 1 := by
    rw [width_insertCell, Nat.max_eq_left hcolumn]
  rw [deleteCell, if_neg (by omega), if_neg (by omega), insertCell, Sequence.extend_of_le hcolumn]
  show r.withCells ((r.cells.insertIdx column c).eraseIdx column) = r
  rw [List.eraseIdx_insertIdx_self]
  rfl

lemma moved_moved (hcolumn : column < r.width) (hdest : dest < r.width) :
    (r.moved column dest).moved dest column = r := by
  show r.withCells (Sequence.move (Sequence.move r.cells column dest) dest column) = r
  rw [Sequence.move_move hcolumn hdest]
  rfl

end Row

/-! ## Tables -/

namespace Table

variable {t : Table} {index dest : Int} {width : Nat}

/-! ### Row edits -/

/-- An inserted row goes to its index, or to the nearest end of the body. -/
lemma row?_insertRow (hheight : 2 ≤ t.height) (index : Int) (r : Row) :
    (t.insertRow index r).row? (min (max index 2) t.height) = some r := by
  have hplace : min (max index 2) t.height = (min (max index 2).toNat t.height : Nat) := by omega
  have hle : min (max index 2).toNat t.height ≤ t.rows.length := Nat.min_le_right _ _
  rw [row?, hplace, Sequence.get?_natCast]
  exact List.getElem?_insertIdx_self.trans (if_pos hle)

lemma deleteRow_insertRow (hheight : 2 ≤ t.height) (index : Int) (r : Row) :
    (t.insertRow index r).deleteRow (min (max index 2) t.height) = t := by
  have hplace : min (max index 2) t.height = (min (max index 2).toNat t.height : Nat) := by omega
  have hle : min (max index 2).toNat t.height ≤ t.rows.length := Nat.min_le_right _ _
  have hheight' : (t.insertRow index r).height = t.height + 1 :=
    List.length_insertIdx_of_le_length hle r
  rw [deleteRow_of_lt (by omega), if_neg (by omega), hplace, Int.toNat_natCast]
  exact congrArg Table.mk (List.eraseIdx_insertIdx_self r)

lemma row?_moveRow (h : Sequence.Moves bodyStart t.height index dest) :
    (t.moveRow index dest).row? dest = t.row? index := by
  rw [moveRow_of_moves h]
  exact h.get?_move

lemma moveRow_moveRow (t : Table) (index dest : Int) :
    (t.moveRow index dest).moveRow dest index = t := by
  by_cases h : Sequence.Moves bodyStart t.height index dest
  · have hback : Sequence.Moves bodyStart (t.moveRow index dest).height dest index := by
      rw [height_moveRow]
      exact h.symm
    rw [moveRow_of_moves hback, moveRow_of_moves h]
    exact congrArg Table.mk (Sequence.move_move h.toNat_lt h.symm.toNat_lt)
  · rw [moveRow_of_not_moves h, moveRow_of_not_moves (mt Sequence.Moves.symm h)]

/-! ### Column edits -/

lemma cell?_insertColumn (hin : 0 ≤ index ∧ index ≤ t.width) (style : Style) (cells : List Cell)
    {i : Nat} (hi : i < t.height) :
    (t.insertColumn style index cells).cell? i index = some (t.newCell style cells i) := by
  rw [cell?, row?, Sequence.get?_natCast, getElem?_insertColumn hin, List.getElem?_eq_getElem hi,
    Option.map_some, Option.bind_some, Row.cell?, Sequence.get?, if_pos hin.1]
  refine List.getElem?_insertIdx_self.trans (if_pos ?_)
  rw [Sequence.length_extend]
  exact Nat.le_max_right _ _

namespace IsRectangular

lemma cell?_moveColumn (h : t.IsRectangular width) (hmoves : Sequence.Moves 0 t.width index dest)
    (i : Nat) : (t.moveColumn index dest).cell? i dest = t.cell? i index := by
  rw [cell?, cell?, row?, row?, Sequence.get?_natCast, Sequence.get?_natCast,
    h.moveColumn_eq hmoves, List.getElem?_map]
  cases hi : t.rows[i]? with
  | none => rfl
  | some r =>
    rw [Option.map_some, Option.bind_some, Option.bind_some]
    exact (h.moves hmoves (List.mem_of_getElem? hi)).get?_move

lemma deleteColumn_insertColumn (h : t.IsRectangular width) (hpos : 1 ≤ width) (hindex : 0 ≤ index)
    (hwidth : index ≤ width) (style style' : Style) (cells : List Cell) :
    (t.insertColumn style index cells).deleteColumn style' index = t := by
  by_cases hrows : t.rows = []
  · -- without rows there are no columns either, so that the index may be out of range
    have hheight : ((t.insertColumn style index cells).deleteColumn style' index).height = 0 := by
      rw [height_deleteColumn, height_insertColumn, height, hrows, List.length_nil]
    exact congrArg Table.mk ((List.eq_nil_of_length_eq_zero hheight).trans hrows.symm)
  · obtain rfl : t.width = width := width_eq_of_forall hrows h
    have hinserted : (t.insertColumn style index cells).rows ≠ [] := by
      rw [← List.length_pos_iff, ← height, height_insertColumn]
      exact List.length_pos_iff.2 hrows
    have hwider : (t.insertColumn style index cells).width = t.width + 1 :=
      width_eq_of_forall hinserted (h.insertColumn ⟨hindex, hwidth⟩ style cells)
    rw [deleteColumn_of_lt ⟨hindex, by omega⟩]
    refine ext_getElem? fun i => ?_
    rw [getElem?_mapRows, getElem?_insertColumn ⟨hindex, hwidth⟩]
    cases hi : t.rows[i]? with
    | none => rfl
    | some r =>
      have hcells : r.width = t.width := h r (List.mem_of_getElem? hi)
      have hcolumn : index.toNat ≤ r.width := by omega
      rw [Option.map_some, Option.map_some]
      split <;> rw [Row.deleteCell_insertCell hcolumn (hcells ▸ hpos)]

lemma moveColumn_moveColumn (h : t.IsRectangular width) (index dest : Int) :
    (t.moveColumn index dest).moveColumn dest index = t := by
  by_cases hmoves : Sequence.Moves 0 t.width index dest
  · have hback : Sequence.Moves 0 (t.moveColumn index dest).width dest index := by
      rw [width_moveColumn]
      exact hmoves.symm
    have hrow (r : Row) (hr : r ∈ t.rows) :
        (r.moved index.toNat dest.toNat).moved dest.toNat index.toNat = r :=
      Row.moved_moved (h.moves hmoves hr).toNat_lt (h.moves hmoves hr).symm.toNat_lt
    rw [(h.moveColumn index dest).moveColumn_eq hback, h.moveColumn_eq hmoves]
    refine congrArg Table.mk ?_
    rw [List.map_map]
    exact (List.map_congr_left hrow).trans (List.map_id t.rows)
  · rw [moveColumn_of_not_moves hmoves, moveColumn_of_not_moves (mt Sequence.Moves.symm hmoves)]

end IsRectangular

end Table

/-- What is inserted or moved is found at the place where it went, and the edit that takes it away
from there gives the table back. -/
theorem edits_undone (t : Table) :
    (2 ≤ t.height → ∀ (index : Int) (r : Row),
      (t.insertRow index r).row? (min (max index 2) t.height) = some r ∧
        (t.insertRow index r).deleteRow (min (max index 2) t.height) = t) ∧
    (∀ index dest : Int,
      (Sequence.Moves Table.bodyStart t.height index dest →
        (t.moveRow index dest).row? dest = t.row? index) ∧
      (t.moveRow index dest).moveRow dest index = t) ∧
    ∀ width : Nat, 1 ≤ width → t.IsRectangular width →
      (∀ (style style' : Style) (index : Int) (cells : List Cell), 0 ≤ index → index ≤ width →
        (∀ i < t.height,
          (t.insertColumn style index cells).cell? i index = some (t.newCell style cells i)) ∧
        (t.insertColumn style index cells).deleteColumn style' index = t) ∧
      ∀ index dest : Int,
        (Sequence.Moves 0 t.width index dest →
          ∀ i : Nat, (t.moveColumn index dest).cell? i dest = t.cell? i index) ∧
        (t.moveColumn index dest).moveColumn dest index = t := by
  refine ⟨fun hheight index r => ⟨Table.row?_insertRow hheight index r,
      Table.deleteRow_insertRow hheight index r⟩,
    fun index dest => ⟨Table.row?_moveRow, t.moveRow_moveRow index dest⟩,
    fun width hpos h => ⟨?_, fun index dest => ⟨h.cell?_moveColumn,
      h.moveColumn_moveColumn index dest⟩⟩⟩
  intro style style' index cells hindex hwidth
  refine ⟨fun i hi => ?_, h.deleteColumn_insertColumn hpos hindex hwidth style style' cells⟩
  have hrows : t.rows ≠ [] := List.length_pos_iff.1 (Nat.zero_lt_of_lt hi)
  rw [← Table.width_eq_of_forall hrows h] at hwidth
  exact Table.cell?_insertColumn ⟨hindex, hwidth⟩ style cells hi

/-- A row that is inserted far behind the end is deleted at the end, a delimiter row of one bar
loses the bar that it was given, and a column that did not move does not move back. -/
theorem edits_undone_single :
    ∃ t, t = Table.mk [⟨[], [⟨['a']⟩], []⟩, ⟨[], [⟨":-".toList⟩], []⟩, ⟨[], [⟨['b']⟩], []⟩] ∧
      (t.insertRow 9 ⟨[], [⟨['c']⟩], []⟩).row? 3 = some ⟨[], [⟨['c']⟩], []⟩ ∧
      (t.insertRow 9 ⟨[], [⟨['c']⟩], []⟩).deleteRow 3 = t ∧
      (t.insertColumn .standard 1 [⟨['d']⟩]).cell? 1 1 = some (.bar 3) ∧
      (t.insertColumn .standard 1 [⟨['d']⟩]).deleteColumn .standard 1 = t ∧
      t.moveColumn 0 1 = t ∧ (t.moveColumn 0 1).moveColumn 1 0 = t := by
  refine ⟨_, rfl, ?_⟩
  obtain ⟨hrow, -, hcolumns⟩ := edits_undone
    ⟨[⟨[], [⟨['a']⟩], []⟩, ⟨[], [⟨":-".toList⟩], []⟩, ⟨[], [⟨['b']⟩], []⟩]⟩
  obtain ⟨hinserted, hdeleted⟩ := hrow (by decide) 9 ⟨[], [⟨['c']⟩], []⟩
  obtain ⟨hcolumn, hmove⟩ := hcolumns 1 (by decide) (by simp [Table.IsRectangular, Row.width])
  obtain ⟨hcells, hrestored⟩ :=
    hcolumn .standard .standard 1 [⟨['d']⟩] (by decide) (by decide)
  exact ⟨hinserted, hdeleted, hcells 1 (by decide), hrestored, by decide, (hmove 0 1).2⟩

end PipeTable
