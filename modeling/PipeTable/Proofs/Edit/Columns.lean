import PipeTable.Proofs.Edit.Delimiter
import PipeTable.Proofs.Edit.Origin
import PipeTable.Proofs.Sequence.Move

/-!
# Column edits as operations on columns

A table is not a matrix: its rows end where they like.  It reads as one, though, when a cell that a
row lacks is taken for an empty one (`Row.cellAt`), and then inserting, deleting and moving a column
are operations on the columns of that matrix.  What they do to a single row is said by three
relations, each of which places all the cells besides the one in question at once, by the counting
of `Sequence.besides`; and `Table.Rowwise` says it of every row of a table.  Only a delimiter row
that loses its only cell is an exception, since it gets a bar for it and not an empty cell.
-/

namespace PipeTable

/-! ## Rows -/

namespace Row

/-- The cell of a column, an empty one if the row ends before it. -/
def cellAt (r : Row) (k : Nat) : Cell := r.cells[k]?.getD .empty

/-- A row with the margins of another one. -/
structure MarginsKept (r s : Row) : Prop where
  marginLeft_eq : s.marginLeft = r.marginLeft
  marginRight_eq : s.marginRight = r.marginRight

/-- A row after a column has been inserted: it is extended up to the column, has the new cell there,
and all its cells on either side of it. -/
structure ColumnInserted (column : Nat) (c : Cell) (r s : Row) : Prop extends MarginsKept r s where
  width_eq : s.width = max r.width column + 1
  new_eq : s.cellAt column = c
  old_eq : ∀ k, s.cellAt (Sequence.besides column k) = r.cellAt k

/-- A row after a column has been deleted: it has the cells besides that of the column, and is as
wide as before only where it ended before the column or has nothing else. -/
structure ColumnDeleted (column : Nat) (r s : Row) : Prop extends MarginsKept r s where
  width_eq : s.width = if r.width ≤ column then r.width else max (r.width - 1) 1
  rest_eq : ∀ k, s.cellAt k = r.cellAt (Sequence.besides column k)

/-- A row after a column has been moved: it is extended up to both places, has the cell of the
column at the other place, and the cells besides it in their order around that. -/
structure ColumnMoved (column dest : Nat) (r s : Row) : Prop extends MarginsKept r s where
  width_eq : s.width = max r.width (max column dest + 1)
  moved_eq : s.cellAt dest = r.cellAt column
  rest_eq : ∀ k, s.cellAt (Sequence.besides dest k) = r.cellAt (Sequence.besides column k)

/-! ### Widths -/

lemma width_insertCell (column : Nat) (c : Cell) (r : Row) :
    (r.insertCell column c).width = max r.width column + 1 := by
  have hlen := Sequence.length_extend r.cells column fun _ => Cell.empty
  rw [insertCell, width_withCells, List.length_insertIdx_of_le_length (by omega), hlen, width]

/-- A row never loses its last cell. -/
lemma width_deleteCell (column : Nat) (last : Cell) (r : Row) :
    (r.deleteCell column last).width =
      if r.width ≤ column then r.width else max (r.width - 1) 1 := by
  unfold deleteCell
  split
  · rfl
  · next hcolumn =>
    split
    · rw [width_withCells, List.length_singleton]
      omega
    · rw [width_withCells, List.length_eraseIdx_of_lt (Nat.lt_of_not_le hcolumn), ← width]
      omega

lemma width_moveCell (column dest : Nat) (r : Row) :
    (r.moveCell column dest).width = max r.width (max column dest + 1) := by
  have hlen := Sequence.length_extend r.cells (max column dest + 1) fun _ => Cell.empty
  rw [moveCell, width_withCells, Sequence.length_move (by omega), hlen, width]

/-! ### Rows that are wide enough -/

/-- The row with a cell moved to another place. -/
def moved (column dest : Nat) (r : Row) : Row := r.withCells (Sequence.move r.cells column dest)

lemma width_moved {r : Row} {dest : Nat} (hdest : dest < r.width) (column : Nat) :
    (r.moved column dest).width = r.width :=
  Sequence.length_move hdest column

/-- A row that has both columns is not extended. -/
lemma moveCell_of_lt {r : Row} {column dest : Nat} (hcolumn : column < r.width)
    (hdest : dest < r.width) : r.moveCell column dest = r.moved column dest := by
  have hle : max column dest + 1 ≤ r.cells.length :=
    Nat.succ_le_of_lt (Nat.max_lt.2 ⟨hcolumn, hdest⟩)
  rw [moveCell, Sequence.extend_of_le hle, moved]

/-! ### Cells -/

lemma marginsKept_withCells (r : Row) (cells : List Cell) : MarginsKept r (r.withCells cells) :=
  ⟨rfl, rfl⟩

lemma cellAt_of_width_le {r : Row} {k : Nat} (h : r.width ≤ k) : r.cellAt k = .empty := by
  rw [cellAt, List.getElem?_eq_none h, Option.getD_none]

lemma columnInserted_insertCell (column : Nat) (c : Cell) (r : Row) :
    ColumnInserted column c r (r.insertCell column c) where
  toMarginsKept := marginsKept_withCells r _
  width_eq := width_insertCell column c r
  new_eq := by
    have hle : column ≤ (Sequence.extend r.cells column fun _ => Cell.empty).length := by
      rw [Sequence.length_extend]
      exact Nat.le_max_right _ _
    exact congrArg (·.getD Cell.empty) (List.getElem?_insertIdx_self.trans (if_pos hle))
  old_eq k := by
    rw [cellAt, insertCell, withCells, Sequence.getElem?_insertIdx_besides]
    exact Sequence.getD_getElem?_extend r.cells column .empty k

/-- The cell that replaces an only one is as good as none if it is empty. -/
lemma columnDeleted_deleteCell {column : Nat} {last : Cell} {r : Row}
    (h : column = 0 → r.width = 1 → last = .empty) :
    ColumnDeleted column r (r.deleteCell column last) := by
  refine ⟨?_, width_deleteCell column last r, fun k => ?_⟩ <;> unfold deleteCell
  · split_ifs
    · exact ⟨rfl, rfl⟩
    · exact marginsKept_withCells r _
    · exact marginsKept_withCells r _
  split_ifs with hcolumn hwidth
  · rw [Sequence.besides]
    split
    · rfl
    · next hk => rw [cellAt_of_width_le (by omega), cellAt_of_width_le (by omega)]
  · have hzero : column = 0 := by omega
    subst hzero
    rw [h rfl (by omega), cellAt_of_width_le (r := r) (by rw [Sequence.besides, if_neg] <;> omega)]
    cases k <;> rfl
  · rw [cellAt, withCells, Sequence.getElem?_eraseIdx_besides, cellAt]

lemma deleteCell_of_width_eq_one {r : Row} (h : r.width = 1) (last : Cell) :
    r.deleteCell 0 last = r.withCells [last] := by
  rw [deleteCell, if_neg (by omega), if_pos (by omega)]

lemma columnMoved_moveCell (column dest : Nat) (r : Row) :
    ColumnMoved column dest r (r.moveCell column dest) := by
  have hlen := Sequence.length_extend r.cells (max column dest + 1) fun _ => Cell.empty
  refine ⟨marginsKept_withCells r _, width_moveCell column dest r, ?_, fun k => ?_⟩
  · rw [cellAt, moveCell, withCells, Sequence.getElem?_move_dest (by omega) (by omega)]
    exact Sequence.getD_getElem?_extend r.cells _ .empty column
  · rw [cellAt, moveCell, withCells, Sequence.getElem?_move_besides (by omega)]
    exact Sequence.getD_getElem?_extend r.cells _ .empty _

end Row

/-! ## Tables -/

namespace Table

/-- The number of rows of contents above the row of an index. -/
def contentsAbove (t : Table) (i : Nat) : Nat :=
  (List.range i).countP fun above => !t.isDelimiterAt above

/-- The cell that a new column has in the row of an index: a bar in the delimiter row, and in the
rows of contents the given cells from the top, empty ones when these run out. -/
def newCell (style : Style) (cells : List Cell) (t : Table) (i : Nat) : Cell :=
  if t.isDelimiterAt i then .bar style.minDashes else cells[t.contentsAbove i]?.getD .empty

/-- A table with as many rows as another one, each in a relation to the row that it replaces. -/
structure Rowwise (R : Nat → Row → Row → Prop) (t t' : Table) : Prop where
  height_eq : t'.height = t.height
  row : ∀ i r, t.rows[i]? = some r → ∃ s, t'.rows[i]? = some s ∧ R i r s

/-- What an edit comes to that applies in range only: every row is replaced, or nothing changes. -/
structure EditsRows (inRange : Prop) (R : Nat → Row → Row → Prop) (t : Table)
    (new? : Option Table) (new : Table) : Prop where
  applies : inRange → new? = some new ∧ t.Rowwise R new
  declines : ¬inRange → new? = none ∧ new = t

variable {R : Nat → Row → Row → Prop} {t t' : Table}

lemma contentsAbove_succ (t : Table) (i : Nat) :
    t.contentsAbove (i + 1) = t.contentsAbove i + if t.isDelimiterAt i then 0 else 1 := by
  rw [contentsAbove, List.range_succ, List.countP_append, ← contentsAbove]
  cases hi : t.isDelimiterAt i <;> simp [hi]

lemma contentsAbove_of_none (h : t.delimiterRow? = none) (i : Nat) : t.contentsAbove i = i := by
  induction i with
  | zero => rfl
  | succ i ih =>
    rw [contentsAbove_succ, ih, isDelimiterAt_of_none h]
    rfl

lemma contentsAbove_add_two {d : Row} (h : t.delimiterRow? = some d) (i : Nat) :
    t.contentsAbove (i + 2) = i + 1 := by
  induction i with
  | zero =>
    rw [contentsAbove_succ, contentsAbove_succ, isDelimiterAt_one h]
    rfl
  | succ i ih =>
    rw [contentsAbove_succ, ih]
    rfl

/-- The cells of a new column, one for every row. -/
lemma getElem?_newCells {i : Nat} (hi : i < t.height) (style : Style) (cells : List Cell) :
    (t.newCells style cells)[i]? = some (t.newCell style cells i) := by
  unfold newCells
  cases hd : t.delimiterRow? with
  | none =>
    rw [Sequence.getElem?_extend_of_lt hi, newCell, contentsAbove_of_none hd,
      isDelimiterAt_of_none hd]
    rfl
  | some d =>
    rcases i with _ | _ | i
    · cases cells <;> rfl
    · rw [newCell, isDelimiterAt_one hd]
      rfl
    · have hnot : t.isDelimiterAt (i + 2) = false := rfl
      rw [newCell, contentsAbove_add_two hd, hnot]
      have hlt : i < t.height - 2 := by omega
      exact (Sequence.getElem?_extend_of_lt hlt _).trans (by rw [List.getElem?_tail]; rfl)

/-- Every row gets the new cell that is meant for it. -/
lemma getElem?_zipWith_newCells (style : Style) (cells : List Cell) (t : Table) (column i : Nat) :
    ((t.newCells style cells).zipWith (fun c r => r.insertCell column c) t.rows)[i]? =
      t.rows[i]?.map (Row.insertCell column (t.newCell style cells i)) := by
  rw [List.getElem?_zipWith]
  cases hr : t.rows[i]? with
  | none => cases (t.newCells style cells)[i]? <;> rfl
  | some r => rw [getElem?_newCells (List.getElem?_eq_some_iff.1 hr).1, Option.map_some]

lemma getElem?_insertColumn {style : Style} {index : Int} (h : 0 ≤ index ∧ index ≤ t.width)
    (cells : List Cell) (i : Nat) :
    (t.insertColumn style index cells).rows[i]? =
      t.rows[i]?.map (Row.insertCell index.toNat (t.newCell style cells i)) := by
  have hbounds : Sequence.inBounds index (t.width + 1) = true := by
    rw [inBounds_iff]
    omega
  rw [insertColumn, insertColumn?, if_pos hbounds]
  exact getElem?_zipWith_newCells style cells t index.toNat i

lemma deleteColumn_of_lt {index : Int} (h : 0 ≤ index ∧ index < t.width) (style : Style) :
    t.deleteColumn style index =
      t.mapRows (Row.deleteCell index.toNat .empty)
        (Row.deleteCell index.toNat (.bar style.minDashes)) := by
  rw [deleteColumn, deleteColumn?, if_pos (inBounds_iff.2 h), Option.getD_some]

lemma height_eq_of_rows {f : Nat → Row → Row}
    (h : ∀ i : Nat, t'.rows[i]? = t.rows[i]?.map (f i)) : t'.height = t.height := by
  refine eq_of_forall_ge_iff fun n => ?_
  rw [height, height, ← List.getElem?_eq_none_iff, h n, Option.map_eq_none_iff,
    List.getElem?_eq_none_iff]

/-- The rows of a table that are made one by one from those of another. -/
lemma rowwise_of_getElem? {f : Nat → Row → Row} (h : ∀ i, t'.rows[i]? = t.rows[i]?.map (f i))
    (hR : ∀ i r, R i r (f i r)) : t.Rowwise R t' := by
  refine ⟨height_eq_of_rows h, fun i r hr => ⟨f i r, ?_, hR i r⟩⟩
  rw [h i, hr, Option.map_some]

lemma EditsRows.height_eq {inRange : Prop} {new? : Option Table}
    (h : t.EditsRows inRange R new? t') : t'.height = t.height := by
  by_cases hrange : inRange
  · exact (h.applies hrange).2.height_eq
  · rw [(h.declines hrange).2]

lemma editsRows_getD {inRange : Prop} {new? : Option Table}
    (happlies : inRange → ∃ t', new? = some t' ∧ t.Rowwise R t')
    (hdeclines : ¬inRange → new? = none) : t.EditsRows inRange R new? (new?.getD t) := by
  constructor
  · intro h
    obtain ⟨t', rfl, ht'⟩ := happlies h
    exact ⟨rfl, ht'⟩
  · intro h
    rw [hdeclines h]
    exact ⟨rfl, rfl⟩

lemma editsRows_insertColumn (style : Style) (index : Int) (cells : List Cell) (t : Table) :
    t.EditsRows (0 ≤ index ∧ index ≤ t.width)
      (fun i => Row.ColumnInserted index.toNat (t.newCell style cells i))
      (t.insertColumn? style index cells) (t.insertColumn style index cells) := by
  have hrange : Sequence.inBounds index (t.width + 1) = true ↔ 0 ≤ index ∧ index ≤ t.width := by
    rw [inBounds_iff]
    omega
  refine editsRows_getD (fun h => ⟨_, if_pos (hrange.2 h), ?_⟩) fun h => if_neg (mt hrange.1 h)
  exact rowwise_of_getElem? (getElem?_zipWith_newCells style cells t index.toNat)
    fun i => Row.columnInserted_insertCell _ _

lemma editsRows_deleteColumn (style : Style) (index : Int) (t : Table) :
    t.EditsRows (0 ≤ index ∧ index < t.width)
      (fun i r s =>
        if t.isDelimiterAt i ∧ index = 0 ∧ r.width = 1 then s = r.withCells [.bar style.minDashes]
        else Row.ColumnDeleted index.toNat r s)
      (t.deleteColumn? style index) (t.deleteColumn style index) := by
  refine editsRows_getD (fun h => ⟨_, if_pos (inBounds_iff.2 h), ?_⟩)
    fun h => if_neg (mt inBounds_iff.1 h)
  refine rowwise_of_getElem? (getElem?_mapRows _ _ t) fun i r => ?_
  cases t.isDelimiterAt i with
  | false => exact Row.columnDeleted_deleteCell fun _ _ => rfl
  | true =>
    split
    · next hlast =>
      obtain ⟨-, rfl, hwidth⟩ := hlast
      exact Row.deleteCell_of_width_eq_one hwidth _
    · next hlast =>
      refine Row.columnDeleted_deleteCell fun hcolumn hwidth => ?_
      exact absurd ⟨rfl, by omega, hwidth⟩ hlast

lemma moves_columns_iff {index dest : Int} :
    (index ≠ dest && Sequence.inBounds index t.width && Sequence.inBounds dest t.width) = true ↔
      Sequence.Moves 0 t.width index dest := by
  simp only [Bool.and_eq_true, inBounds_iff, decide_eq_true_eq]
  constructor
  · rintro ⟨⟨hne, hindex, hindex'⟩, hdest, hdest'⟩
    exact ⟨hne, hindex, hindex', hdest, hdest'⟩
  · rintro ⟨hne, hindex, hindex', hdest, hdest'⟩
    exact ⟨⟨hne, hindex, hindex'⟩, hdest, hdest'⟩

lemma moveColumn_of_moves {index dest : Int} (h : Sequence.Moves 0 t.width index dest) :
    t.moveColumn index dest = ⟨t.rows.map (Row.moveCell index.toNat dest.toNat)⟩ := by
  rw [moveColumn, moveColumn?, if_pos (moves_columns_iff.2 h), Option.getD_some]

lemma moveColumn_of_not_moves {index dest : Int} (h : ¬Sequence.Moves 0 t.width index dest) :
    t.moveColumn index dest = t := by
  rw [moveColumn, moveColumn?, if_neg (mt moves_columns_iff.1 h), Option.getD_none]

/-- No row is extended beyond the widest one. -/
@[simp] lemma width_moveColumn (index dest : Int) (t : Table) :
    (t.moveColumn index dest).width = t.width := by
  by_cases h : Sequence.Moves 0 t.width index dest
  · have hindex := h.toNat_lt
    have hdest := h.symm.toNat_lt
    rw [moveColumn_of_moves h]
    apply Nat.le_antisymm
    · by_cases hrows : t.rows = []
      · rw [hrows]
        exact Nat.zero_le _
      · obtain ⟨s, hs, hwidth⟩ := exists_width_eq
          (t := ⟨t.rows.map (Row.moveCell index.toNat dest.toNat)⟩) (mt List.map_eq_nil_iff.1 hrows)
        obtain ⟨r, hr, rfl⟩ := List.mem_map.1 hs
        have hle := width_le hr
        rw [← hwidth, Row.width_moveCell]
        omega
    · have hrows : t.rows ≠ [] := rows_ne_nil_of_width_pos (Nat.zero_lt_of_lt hindex)
      obtain ⟨r, hr, hwidth⟩ := exists_width_eq hrows
      have hmoved : r.moveCell index.toNat dest.toNat ∈
          t.rows.map (Row.moveCell index.toNat dest.toNat) := List.mem_map_of_mem hr
      have hle := width_le (t := ⟨_⟩) hmoved
      rw [Row.width_moveCell] at hle
      omega
  · rw [moveColumn_of_not_moves h]

lemma editsRows_moveColumn (index dest : Int) (t : Table) :
    t.EditsRows (index ≠ dest ∧ (0 ≤ index ∧ index < t.width) ∧ 0 ≤ dest ∧ dest < t.width)
      (fun _ => Row.ColumnMoved index.toNat dest.toNat)
      (t.moveColumn? index dest) (t.moveColumn index dest) := by
  have hrange : (index ≠ dest && Sequence.inBounds index t.width && Sequence.inBounds dest t.width)
      = true ↔ index ≠ dest ∧ (0 ≤ index ∧ index < t.width) ∧ 0 ≤ dest ∧ dest < t.width := by
    rw [moves_columns_iff]
    exact ⟨fun h => ⟨h.ne, ⟨h.first_le_index, h.index_lt⟩, h.first_le_dest, h.dest_lt⟩,
      fun h => ⟨h.1, h.2.1.1, h.2.1.2, h.2.2.1, h.2.2.2⟩⟩
  refine editsRows_getD (fun h => ⟨_, if_pos (hrange.2 h), ?_⟩) fun h => if_neg (mt hrange.1 h)
  exact rowwise_of_getElem? (fun i => List.getElem?_map) fun _ => Row.columnMoved_moveCell _ _

@[simp] lemma height_insertColumn (style : Style) (index : Int) (cells : List Cell) (t : Table) :
    (t.insertColumn style index cells).height = t.height :=
  (editsRows_insertColumn style index cells t).height_eq

@[simp] lemma height_deleteColumn (style : Style) (index : Int) (t : Table) :
    (t.deleteColumn style index).height = t.height :=
  (editsRows_deleteColumn style index t).height_eq

/-! ### Rectangular tables -/

namespace IsRectangular

variable {width : Nat} {index dest : Int}

lemma insertColumn (h : t.IsRectangular t.width) (hin : 0 ≤ index ∧ index ≤ t.width)
    (style : Style) (cells : List Cell) :
    (t.insertColumn style index cells).IsRectangular (t.width + 1) := by
  intro s hs
  obtain ⟨i, hi⟩ := List.getElem?_of_mem hs
  rw [getElem?_insertColumn hin] at hi
  obtain ⟨r, hr, rfl⟩ := Option.map_eq_some_iff.1 hi
  rw [Row.width_insertCell, h r (List.mem_of_getElem? hr)]
  omega

/-- The columns of a rectangular table are there in every row. -/
lemma moves (h : t.IsRectangular width) (hmoves : Sequence.Moves 0 t.width index dest) {r : Row}
    (hr : r ∈ t.rows) : Sequence.Moves 0 r.width index dest := by
  have hwidth : t.width = width := width_eq_of_forall (List.ne_nil_of_mem hr) h
  rwa [h r hr, ← hwidth]

lemma moveColumn_eq (h : t.IsRectangular width) (hmoves : Sequence.Moves 0 t.width index dest) :
    t.moveColumn index dest = ⟨t.rows.map (Row.moved index.toNat dest.toNat)⟩ := by
  rw [moveColumn_of_moves hmoves]
  refine congrArg Table.mk (List.map_congr_left fun r hr => ?_)
  exact Row.moveCell_of_lt (h.moves hmoves hr).toNat_lt (h.moves hmoves hr).symm.toNat_lt

lemma moveColumn (h : t.IsRectangular width) (index dest : Int) :
    (t.moveColumn index dest).IsRectangular width := by
  by_cases hmoves : Sequence.Moves 0 t.width index dest
  · rw [h.moveColumn_eq hmoves]
    intro s hs
    obtain ⟨r, hr, rfl⟩ := List.mem_map.1 hs
    rw [Row.width_moved (h.moves hmoves hr).symm.toNat_lt, h r hr]
  · rwa [moveColumn_of_not_moves hmoves]

end IsRectangular

/-! ### All rows at once -/

/-- Inserting, deleting and moving a column changes a table in range only, and then takes every row
to one that has its cells in the new columns. -/
theorem column_edits_rowwise (style : Style) (t : Table) :
    (∀ (index : Int) (cells : List Cell),
      t.EditsRows (0 ≤ index ∧ index ≤ t.width)
        (fun i => Row.ColumnInserted index.toNat (t.newCell style cells i))
        (t.insertColumn? style index cells) (t.insertColumn style index cells)) ∧
    (∀ index : Int,
      t.EditsRows (0 ≤ index ∧ index < t.width)
        (fun i r s =>
          if t.isDelimiterAt i ∧ index = 0 ∧ r.width = 1 then s = r.withCells [.bar style.minDashes]
          else Row.ColumnDeleted index.toNat r s)
        (t.deleteColumn? style index) (t.deleteColumn style index)) ∧
    ∀ index dest : Int,
      t.EditsRows (index ≠ dest ∧ (0 ≤ index ∧ index < t.width) ∧ 0 ≤ dest ∧ dest < t.width)
        (fun _ => Row.ColumnMoved index.toNat dest.toNat)
        (t.moveColumn? index dest) (t.moveColumn index dest) :=
  ⟨fun index cells => editsRows_insertColumn style index cells t,
    fun index => editsRows_deleteColumn style index t,
    fun index dest => editsRows_moveColumn index dest t⟩

/-- A ragged table with a single bar.  The second of the given cells goes past the delimiter row to
a row that is too short for it, the bar is replaced by a new one, and a column that is not there
does not move. -/
theorem column_edits_rowwise_ragged :
    ∃ t, t = Table.mk [⟨[], [⟨['a']⟩, ⟨['b']⟩], []⟩, ⟨['>'], [.bar 5], [' ']⟩,
        ⟨[], [⟨['c']⟩], []⟩] ∧
      (∃ s, (t.insertColumn .standard 2 [⟨['x']⟩, ⟨['y']⟩]).rows[2]? = some s ∧ s.width = 3 ∧
        s.cellAt 0 = ⟨['c']⟩ ∧ s.cellAt 1 = .empty ∧ s.cellAt 2 = ⟨['y']⟩) ∧
      (t.deleteColumn .standard 0).rows[1]? = some ⟨['>'], [.bar 3], [' ']⟩ ∧
      t.moveColumn 2 0 = t := by
  refine ⟨_, rfl, ?_⟩
  obtain ⟨hinsert, hdelete, hmove⟩ := column_edits_rowwise .standard
    ⟨[⟨[], [⟨['a']⟩, ⟨['b']⟩], []⟩, ⟨['>'], [.bar 5], [' ']⟩, ⟨[], [⟨['c']⟩], []⟩]⟩
  refine ⟨?_, ?_, ((hmove 2 0).declines (by decide)).2⟩
  · obtain ⟨-, hrows⟩ := (hinsert 2 [⟨['x']⟩, ⟨['y']⟩]).applies (by decide)
    obtain ⟨s, hs, hrow⟩ := hrows.row 2 _ rfl
    exact ⟨s, hs, hrow.width_eq, hrow.old_eq 0, hrow.old_eq 1, hrow.new_eq⟩
  · obtain ⟨-, hrows⟩ := (hdelete 0).applies (by decide)
    obtain ⟨s, hs, hrow⟩ := hrows.row 1 _ rfl
    rw [if_pos (by decide)] at hrow
    rw [hs, hrow]
    rfl

end Table

end PipeTable
