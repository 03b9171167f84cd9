import PipeTable.Proofs.Edit.Commute
import PipeTable.Proofs.Formatting.Again
import PipeTable.Proofs.Formatting.Faults

/-!
# Formatting and moves

It makes no difference whether a row or a column is moved before a table is formatted or afterwards
(`format_moves`).  The formats of rows and cells depend on nothing but the columns of the table, and
these are found from all rows together, in whichever order they stand.  So a move of rows leaves the
columns as they are (`Parts.columns_moveBody`), and a move of columns takes them along
(`Parts.columns_moveCells`), with their bars and the cells of every row.  A refusal stays one, and
the same one, since all cells are refused for one fault (`Sequence.mapM_move`).

Rows can be moved in any table.  Columns are moved in tables that are rectangular: in a ragged one
the move would extend rows, and formatting knows of no cells that a row does not have.
-/

namespace PipeTable

/-! ## Formatted tables -/

namespace Table

variable {style : Style} {t t' : Table} {formatted : Formatted} {width : Nat}

lemma height_of_format (h : t.format style = .ok formatted) :
    formatted.table.height = t.height := by
  rcases format_cases h with ⟨-, rfl⟩ | ⟨p, hp, ⟨-, rfl⟩ | ⟨-, q, hq, rfl⟩⟩
  · rfl
  · exact List.length_map _
  · rw [(Parts.reshaped_of_formatBy hq).height_eq, toTable_of_parts? hp]

lemma Parts.Reshaped.isRectangular {least : Int} {p q : Parts} (h : p.Reshaped least q)
    (hrect : p.toTable.IsRectangular width) : q.toTable.IsRectangular width := by
  intro s hs
  rcases h.of_mem hs with ⟨r, hr, hrs⟩ | ⟨d, hd, hds⟩
  · rw [hrs.width_eq, hrect r (mem_toTable_of_mem_contentRows hr)]
  · rw [hds.width_eq, hrect d (mem_toTable.2 (.inr (.inl hd)))]

/-- The rows of a table stay equally wide, even when they lose their cells. -/
lemma IsRectangular.format (hrect : t.IsRectangular width) (h : t.format style = .ok formatted) :
    formatted.table.IsRectangular width := by
  rcases format_cases h with ⟨-, rfl⟩ | ⟨p, hp, ⟨hcells, rfl⟩ | ⟨-, q, hq, rfl⟩⟩
  · exact hrect
  · intro s hs
    obtain ⟨r, -, rfl⟩ := List.mem_map.1 hs
    have hwidth := hrect _ (List.mem_of_mem_head? (header_of_parts? hp))
    rw [← hwidth, Row.width, Row.width, hcells]
    rfl
  · refine (Parts.reshaped_of_formatBy hq).isRectangular ?_
    rwa [toTable_of_parts? hp]

lemma IsRectangular.width_of_format (hrect : t.IsRectangular width)
    (h : t.format style = .ok formatted) : formatted.table.width = t.width := by
  have hheight : formatted.table.rows.length = t.rows.length := height_of_format h
  by_cases hrows : t.rows = []
  · have hrows' : formatted.table.rows = [] := by
      rw [hrows] at hheight
      exact List.eq_nil_of_length_eq_zero hheight
    rw [Table.width, Table.width, hrows, hrows']
  · have hrows' : formatted.table.rows ≠ [] := by
      rw [← List.length_pos_iff, hheight]
      exact List.length_pos_iff.2 hrows
    rw [width_eq_of_forall hrows hrect, width_eq_of_forall hrows' (hrect.format h)]

/-! ### Edits before and after -/

/-- Formatting goes with an edit that leaves formatted tables as they are. -/
lemma format_eq_map_of_eq {edit : Table → Table}
    (h : ∀ f, t.format style = .ok f → edit f.table = f.table) :
    t.format style = (t.format style).map fun f => { f with table := edit f.table } := by
  cases hf : t.format style with
  | error fault => rfl
  | ok f =>
    show Except.ok f = .ok { f with table := edit f.table }
    rw [h f hf]

/-- Formatting goes with an edit of the parts of a table that goes with formatting these. -/
lemma format_eq_map_of_parts {edit : Table → Table} {editParts : Parts → Parts} {p : Parts}
    (hp : t.parts? = some p) (hp' : t'.parts? = some (editParts p))
    (hcells : p.header.cells ≠ []) (hcells' : (editParts p).header.cells ≠ [])
    (hmargin : (editParts p).header.marginLeft = p.header.marginLeft)
    (hformat : (editParts p).formatBy style = (p.formatBy style).map editParts)
    (hedit : ∀ q, p.formatBy style = .ok q → (editParts q).toTable = edit q.toTable) :
    t'.format style = (t.format style).map fun f => { f with table := edit f.table } := by
  rw [format_eq hp hcells, format_eq hp' hcells', hformat, hmargin]
  cases hq : p.formatBy style with
  | error fault => rfl
  | ok q =>
    show Except.ok (Formatted.mk (editParts q).toTable _) = .ok ⟨edit q.toTable, _⟩
    rw [hedit q hq]

end Table

/-! ## Moving rows -/

namespace Table

namespace Parts

variable {style : Style} {p q : Parts} {index dest : Nat}

/-- The rows before the body. -/
def frontRows (p : Parts) : List Row := p.header :: p.delimiter?.toList

/-- The parts with a row of the body moved to another place there. -/
def moveBody (index dest : Nat) (p : Parts) : Parts :=
  { p with body := Sequence.move p.body index dest }

lemma length_frontRows_le (p : Parts) : p.frontRows.length ≤ bodyStart := by
  obtain ⟨header, delimiter?, body⟩ := p
  cases delimiter? <;> simp [frontRows, bodyStart]

lemma Reshaped.length_frontRows {least : Int} (h : p.Reshaped least q) :
    q.frontRows.length = p.frontRows.length := by
  obtain ⟨header, delimiter?, body⟩ := p
  obtain ⟨header', delimiter?', body'⟩ := q
  obtain ⟨-, hdelimiter, -⟩ := h
  cases hdelimiter <;> rfl

lemma toTable_moveBody (p : Parts) (index dest : Nat) :
    (p.moveBody index dest).toTable =
      ⟨Sequence.move p.toTable.rows (p.frontRows.length + index) (p.frontRows.length + dest)⟩ :=
  congrArg Table.mk (Sequence.move_append p.frontRows p.body index dest).symm

/-- The row behind a header that stands alone does not move, so that no delimiter row comes up. -/
lemma parts?_moveBody {t : Table} (hp : t.parts? = some p)
    (hindex : bodyStart ≤ p.frontRows.length + index)
    (hdest : bodyStart ≤ p.frontRows.length + dest) :
    (p.moveBody index dest).toTable.parts? = some (p.moveBody index dest) := by
  cases hd : p.delimiter? with
  | some d => exact parts?_toTable hd (isDelimiter_of_parts? hp hd)
  | none =>
    have hfront : p.frontRows.length = 1 := by
      rw [frontRows, hd]
      rfl
    refine parts?_toTable_of_none hd fun r hr => not_isDelimiter_of_parts? hp hd ?_
    rw [hfront, bodyStart] at hindex hdest
    rwa [moveBody, List.head?_eq_getElem?, Sequence.getElem?_move_of_lt (by omega) (by omega),
      ← List.head?_eq_getElem?] at hr

lemma columns_moveBody (hdest : dest < p.body.length) (style : Style) (fallback : Alignment) :
    (p.moveBody index dest).columns style fallback = p.columns style fallback := by
  have hbody : (Sequence.move p.body index dest).Perm p.body := Sequence.perm_move hdest index
  have hwidth : (p.moveBody index dest).toTable.width = p.toTable.width :=
    width_eq_of_perm (hbody.append_left p.frontRows)
  have hcolumn (column : Nat) :
      (p.moveBody index dest).columnWidth style column = p.columnWidth style column := by
    have hcontents : ((p.moveBody index dest).columnContents column).Perm
        (p.columnContents column) := (hbody.cons p.header).filterMap _
    rw [columnWidth_eq, columnWidth_eq]
    exact hcontents.foldr_eq'
      (fun t _ u _ _ => Nat.max_left_comm (style.measure.width u) (style.measure.width t) _) _
  rw [columns, columns, hwidth]
  exact List.map_congr_left fun column _ => congrArg (Column.mk · _) (hcolumn column)

lemma formatNormal_moveBody (hdest : dest < p.body.length) (style : Style) :
    (p.moveBody index dest).formatNormal style =
      (p.formatNormal style).map (moveBody index dest) := by
  have hbody (columns : List Column) :
      (p.moveBody index dest).body.mapM (Row.fillColumns style columns none) =
        (p.body.mapM (Row.fillColumns style columns none)).map
          fun rows => Sequence.move rows index dest :=
    Sequence.mapM_move .noSide (fun _ _ _ h => (Row.fillColumns_eq_error_iff.1 h).2) hdest index
  unfold formatNormal
  simp only [map_bind_eq, columns_moveBody hdest, hbody]
  refine bind_congr fun fallback => bind_congr fun override => bind_congr fun header => ?_
  cases p.body.mapM (Row.fillColumns style (p.columns style fallback) none) with
  | error fault => rfl
  | ok rows =>
    refine congrArg Except.ok (congrArg (Parts.mk _ _) ?_)
    exact Sequence.map_move _ rows index dest

lemma formatBy_moveBody (hdest : dest < p.body.length) (style : Style) :
    (p.moveBody index dest).formatBy style = (p.formatBy style).map (moveBody index dest) := by
  unfold formatBy
  cases style.layout.layout? with
  | none => rfl
  | some layout =>
    cases layout with
    | normal => exact formatNormal_moveBody hdest style
    | weak =>
      refine congrArg Except.ok (congrArg (Parts.mk _ _) ?_)
      exact Sequence.map_move _ p.body index dest

end Parts

variable {style : Style} {t : Table} {p : Parts} {index dest : Int}

/-- Bare margins are all alike. -/
lemma format_moveRow_of_noCells (hp : t.parts? = some p) (hcells : p.header.cells = [])
    (style : Style) (index dest : Int) :
    (t.moveRow index dest).format style =
      (t.format style).map fun f => { f with table := f.table.moveRow index dest } := by
  have hheader : (t.moveRow index dest).rows.head? = some p.header := by
    rw [List.head?_eq_getElem?, getElem?_moveRow_of_lt t index dest (by decide),
      ← List.head?_eq_getElem?, header_of_parts? hp]
  obtain ⟨p', hp', hheader'⟩ := exists_parts?_of_header hheader
  have hcells' : p'.header.cells = [] := by rw [hheader', hcells]
  have hcollapse (margin : Text) :
      (t.moveRow index dest).collapse margin = (t.collapse margin).moveRow index dest :=
    moveRow_eq_of_rows (fun _ _ => rfl) (fun _ => List.getElem?_map) fun _ => List.getElem?_map
  unfold format
  cases style.layout.layout? with
  | none => rfl
  | some layout =>
    dsimp only
    rw [formatIn_of_noCells hp hcells, formatIn_of_noCells hp' hcells', hheader', hcollapse]
    rfl

lemma format_moveRow_of_moves (hp : t.parts? = some p) (hcells : p.header.cells ≠ [])
    (hmoves : Sequence.Moves bodyStart t.height index dest) (style : Style) :
    (t.moveRow index dest).format style =
      (t.format style).map fun f => { f with table := f.table.moveRow index dest } := by
  have hfront := p.length_frontRows_le
  obtain ⟨place, hplace⟩ := Nat.exists_eq_add_of_le (Nat.le_trans hfront hmoves.first_le_toNat)
  obtain ⟨destPlace, hdestPlace⟩ :=
    Nat.exists_eq_add_of_le (Nat.le_trans hfront hmoves.symm.first_le_toNat)
  have hmoved (q : Parts) (hfront : q.frontRows.length = p.frontRows.length)
      (hheight : q.toTable.height = t.height) :
      (q.moveBody place destPlace).toTable = q.toTable.moveRow index dest := by
    rw [moveRow_of_moves (hheight ▸ hmoves), Parts.toTable_moveBody, hfront, hplace, hdestPlace]
  have htable : p.toTable = t := toTable_of_parts? hp
  have hbody : destPlace < p.body.length := by
    have hheight : t.height = p.frontRows.length + p.body.length := by
      rw [← htable]
      exact List.length_append
    have hlt := hmoves.symm.toNat_lt
    omega
  have hp' : (t.moveRow index dest).parts? = some (p.moveBody place destPlace) := by
    rw [← htable, ← hmoved p rfl (by rw [htable])]
    exact Parts.parts?_moveBody hp (hplace ▸ hmoves.first_le_toNat)
      (hdestPlace ▸ hmoves.symm.first_le_toNat)
  refine format_eq_map_of_parts hp hp' hcells hcells rfl (Parts.formatBy_moveBody hbody style) ?_
  intro q hq
  have hreshaped := Parts.reshaped_of_formatBy hq
  exact hmoved q hreshaped.length_frontRows (hreshaped.height_eq.trans (congrArg height htable))

lemma format_moveRow (style : Style) (t : Table) (index dest : Int) :
    (t.moveRow index dest).format style =
      (t.format style).map fun f => { f with table := f.table.moveRow index dest } := by
  by_cases hmoves : Sequence.Moves bodyStart t.height index dest
  · have hrows : t.rows ≠ [] := List.length_pos_iff.1 (Nat.zero_lt_of_lt hmoves.toNat_lt)
    obtain ⟨p, hp⟩ := exists_parts?_eq hrows
    by_cases hcells : p.header.cells = []
    · exact format_moveRow_of_noCells hp hcells style index dest
    · exact format_moveRow_of_moves hp hcells hmoves style
  · rw [moveRow_of_not_moves hmoves]
    refine format_eq_map_of_eq fun f hf => moveRow_of_not_moves ?_
    rwa [height_of_format hf]

end Table

/-! ## Moving columns -/

namespace Row

variable {style : Style} {columns : List Column} {r : Row} {index dest : Nat}

lemma isDelimiter_moved (hdest : dest < r.width) (index : Nat) :
    (r.moved index dest).isDelimiter = r.isDelimiter := by
  have hperm : (r.moved index dest).cells.Perm r.cells := Sequence.perm_move hdest index
  rw [isDelimiter, isDelimiter, hperm.isEmpty_eq, hperm.all_eq]

lemma contents_moved (r : Row) (index dest : Nat) :
    (r.moved index dest).contents = Sequence.move r.contents index dest :=
  Sequence.map_move _ r.cells index dest

lemma alignments_moved (r : Row) (index dest : Nat) :
    (r.moved index dest).alignments = Sequence.move r.alignments index dest :=
  Sequence.map_move _ r.cells index dest

/-- The cells of a row take their columns along. -/
lemma fillColumns_moved (hwidth : r.width = columns.length) (hdest : dest < r.width) (style : Style)
    (override : Option Alignment) (index : Nat) :
    (r.moved index dest).fillColumns style (Sequence.move columns index dest) override =
      (r.fillColumns style columns override).map fun cells => Sequence.move cells index dest := by
  have hzip : dest < (r.cells.zip columns).length := by
    rw [List.length_zip, ← hwidth, ← width, Nat.min_self]
    exact hdest
  rw [fillColumns, moved, withCells, Sequence.zip_move hwidth]
  refine Sequence.mapM_move .noSide (fun cell _ e h => ?_) hzip index
  rw [bind_eq_error_iff_or (fun e => Measure.align_eq_error_iff)
    fun text e => pure_eq_error_iff _ .noSide e] at h
  exact h.2

lemma fillBars_moved (hwidth : r.width = columns.length) (index dest : Nat) :
    (r.moved index dest).fillBars (Sequence.move columns index dest) =
      Sequence.move (r.fillBars columns) index dest := by
  have hlen : r.alignments.length = columns.length := by rw [length_alignments, hwidth]
  rw [fillBars, fillBars, alignments_moved, Sequence.zip_move hlen, Sequence.map_move]

end Row

namespace Table

namespace Parts

variable {style : Style} {p : Parts} {width index dest : Nat}

/-- The parts with the cells of a column moved to another place in every row. -/
def moveCells (index dest : Nat) (p : Parts) : Parts where
  header := p.header.moved index dest
  delimiter? := p.delimiter?.map (Row.moved index dest)
  body := p.body.map (Row.moved index dest)

lemma toTable_moveCells (p : Parts) (index dest : Nat) :
    (p.moveCells index dest).toTable = ⟨p.toTable.rows.map (Row.moved index dest)⟩ := by
  obtain ⟨header, delimiter?, body⟩ := p
  cases delimiter? <;> rfl

section
variable (hrect : p.toTable.IsRectangular width) (hindex : index < width) (hdest : dest < width)
include hrect hdest

lemma isRectangular_moveCells : (p.moveCells index dest).toTable.IsRectangular width := by
  intro s hs
  rw [toTable_moveCells] at hs
  obtain ⟨r, hr, rfl⟩ := List.mem_map.1 hs
  rw [Row.width_moved (hrect r hr ▸ hdest), hrect r hr]

lemma parts?_moveCells {t : Table} (hp : t.parts? = some p) :
    (p.moveCells index dest).toTable.parts? = some (p.moveCells index dest) := by
  have hsame {r : Row} (hr : r ∈ p.toTable.rows) :
      (r.moved index dest).isDelimiter = r.isDelimiter :=
    Row.isDelimiter_moved (hrect r hr ▸ hdest) index
  cases hd : p.delimiter? with
  | some d =>
    have hmoved : (p.moveCells index dest).delimiter? = some (d.moved index dest) := by
      rw [moveCells, hd, Option.map_some]
    refine parts?_toTable hmoved ?_
    rw [hsame (mem_toTable.2 (.inr (.inl hd)))]
    exact isDelimiter_of_parts? hp hd
  | none =>
    have hmoved : (p.moveCells index dest).delimiter? = none := by
      rw [moveCells, hd, Option.map_none]
    refine parts?_toTable_of_none hmoved fun s hs => ?_
    rw [moveCells, List.head?_map] at hs
    obtain ⟨r, hr, rfl⟩ := Option.map_eq_some_iff.1 hs
    rw [hsame (mem_toTable.2 (.inr (.inr (List.mem_of_mem_head? hr))))]
    exact not_isDelimiter_of_parts? hp hd hr

include hindex

lemma columnWidth_moveCells {column : Nat} (hcolumn : column < width) (style : Style) :
    (p.moveCells index dest).columnWidth style column =
      p.columnWidth style (Sequence.origin index dest column) := by
  have hcontents : (p.moveCells index dest).columnContents column =
      p.columnContents (Sequence.origin index dest column) := by
    have hrows : (p.moveCells index dest).contentRows = p.contentRows.map (Row.moved index dest) :=
      rfl
    rw [columnContents, hrows, List.filterMap_map]
    refine List.filterMap_congr fun r hr => ?_
    have hwidth : r.contents.length = width := by
      rw [Row.length_contents, hrect r (mem_toTable_of_mem_contentRows hr)]
    rw [Function.comp_apply, Row.contents_moved,
      Sequence.getElem?_move (hwidth ▸ hindex) (hwidth ▸ hdest)]
  have hleast : (p.moveCells index dest).leastWidth style column =
      p.leastWidth style (Sequence.origin index dest column) := by
    rw [leastWidth, leastWidth, moveCells]
    cases hd : p.delimiter? with
    | none => rfl
    | some d =>
      have hwidth : d.width = width := hrect d (mem_toTable.2 (.inr (.inl hd)))
      rw [Option.map_some, Option.map_some, Option.map_some, Option.getD_some, Option.getD_some,
        Row.width_moved (hwidth ▸ hdest), hwidth, if_pos hcolumn,
        if_pos (Sequence.origin_lt hindex hdest hcolumn)]
  rw [columnWidth_eq, columnWidth_eq, hcontents, hleast]

lemma declared_moveCells (column : Nat) :
    (p.moveCells index dest).declared column =
      p.declared (Sequence.origin index dest column) := by
  rw [declared, declared, moveCells]
  cases hd : p.delimiter? with
  | none => rfl
  | some d =>
    have hwidth : d.alignments.length = width := by
      rw [Row.length_alignments, hrect d (mem_toTable.2 (.inr (.inl hd)))]
    dsimp only [Option.map_some]
    rw [Row.alignments_moved, Sequence.getElem?_move (hwidth ▸ hindex) (hwidth ▸ hdest)]

lemma columns_moveCells (style : Style) (fallback : Alignment) :
    (p.moveCells index dest).columns style fallback =
      Sequence.move (p.columns style fallback) index dest := by
  have hwidth : p.toTable.width = width := width_eq_of_forall (List.cons_ne_nil _ _) hrect
  have hwidth' : (p.moveCells index dest).toTable.width = width :=
    width_eq_of_forall (List.cons_ne_nil _ _) (isRectangular_moveCells hrect hdest)
  rw [columns, columns, hwidth, hwidth', ← Sequence.map_move, Sequence.move_range hindex hdest,
    List.map_map]
  refine List.map_congr_left fun column hcolumn => ?_
  rw [columnWidth_moveCells hrect hindex hdest (List.mem_range.1 hcolumn),
    declared_moveCells hrect hindex hdest]
  rfl

lemma formatNormal_moveCells (style : Style) :
    (p.moveCells index dest).formatNormal style =
      (p.formatNormal style).map (moveCells index dest) := by
  have hwidth : p.toTable.width = width := width_eq_of_forall (List.cons_ne_nil _ _) hrect
  have hcolumns (r : Row) (hr : r ∈ p.toTable.rows) (fallback : Alignment) :
      r.width = (p.columns style fallback).length := by
    rw [length_columns, hrect r hr, hwidth]
  have hrow (r : Row) (hr : r ∈ p.toTable.rows) (fallback : Alignment)
      (override : Option Alignment) :=
    Row.fillColumns_moved (hcolumns r hr fallback) (hrect r hr ▸ hdest) style override index
  have hbody (fallback : Alignment) :
      (p.moveCells index dest).body.mapM (Row.fillColumns style
          (Sequence.move (p.columns style fallback) index dest) none) =
        (p.body.mapM (Row.fillColumns style (p.columns style fallback) none)).map
          (List.map fun cells => Sequence.move cells index dest) := by
    rw [moveCells, List.mapM_map]
    exact mapM_eq_map fun r hr => hrow r (mem_toTable.2 (.inr (.inr hr))) fallback none
  have hbars (fallback : Alignment) :
      ((p.delimiter?.map (Row.moved index dest)).map fun delimiter =>
          Row.formatted p.header.marginLeft
            (delimiter.fillBars (Sequence.move (p.columns style fallback) index dest))) =
        (p.delimiter?.map fun delimiter => Row.formatted p.header.marginLeft
          (delimiter.fillBars (p.columns style fallback))).map (Row.moved index dest) := by
    rw [Option.map_map, Option.map_map]
    refine Option.map_congr fun d hd => ?_
    have hd := hcolumns d (mem_toTable.2 (.inr (.inl hd))) fallback
    exact congrArg (Row.formatted _) (Row.fillBars_moved hd index dest)
  have hheader := hrow p.header (mem_toTable.2 (.inl rfl))
  unfold formatNormal
  simp only [map_bind_eq, columns_moveCells hrect hindex hdest, hbody]
  refine bind_congr fun fallback => bind_congr fun override => ?_
  rw [moveCells, hheader]
  cases p.header.fillColumns style (p.columns style fallback) override with
  | error fault => rfl
  | ok header =>
    cases p.body.mapM (Row.fillColumns style (p.columns style fallback) none) with
    | error fault => rfl
    | ok body =>
      have hformatted : (body.map fun cells => Sequence.move cells index dest).map
            (Row.formatted p.header.marginLeft) =
          (body.map (Row.formatted p.header.marginLeft)).map (Row.moved index dest) := by
        rw [List.map_map, List.map_map]
        rfl
      exact congrArg Except.ok (congrArg₂ (Parts.mk _) (hbars fallback) hformatted)

end

/-- In the weak layout cells need not even know their columns. -/
lemma formatWeak_moveCells (style : Style) (p : Parts) (index dest : Nat) :
    (p.moveCells index dest).formatWeak style = (p.formatWeak style).moveCells index dest := by
  have hmargin : (p.header.moved index dest).marginLeft = p.header.marginLeft := rfl
  have hpadded (margin : Text) (r : Row) : Row.formatted margin (r.moved index dest).padCells =
      (Row.formatted margin r.padCells).moved index dest :=
    congrArg (Row.formatted margin) (Sequence.map_move _ r.cells index dest)
  have hbars (margin : Text) (d : Row) :
      Row.formatted margin ((d.moved index dest).shortBars style) =
        (Row.formatted margin (d.shortBars style)).moved index dest := by
    rw [Row.shortBars, Row.shortBars, Row.alignments_moved, Sequence.map_move]
    rfl
  simp only [formatWeak, moveCells, List.map_map, Option.map_map, Function.comp_def, hmargin,
    hpadded, hbars]

lemma formatBy_moveCells (hrect : p.toTable.IsRectangular width) (hindex : index < width)
    (hdest : dest < width) (style : Style) :
    (p.moveCells index dest).formatBy style = (p.formatBy style).map (moveCells index dest) := by
  unfold formatBy
  cases style.layout.layout? with
  | none => rfl
  | some layout =>
    cases layout with
    | normal => exact formatNormal_moveCells hrect hindex hdest style
    | weak => exact congrArg Except.ok (formatWeak_moveCells style p index dest)

end Parts

variable {t : Table} {width : Nat} {index dest : Int}

lemma IsRectangular.format_moveColumn (h : t.IsRectangular width) (style : Style)
    (index dest : Int) :
    (t.moveColumn index dest).format style =
      (t.format style).map fun f => { f with table := f.table.moveColumn index dest } := by
  by_cases hmoves : Sequence.Moves 0 t.width index dest
  · have hrows : t.rows ≠ [] := rows_ne_nil_of_width_pos (Nat.zero_lt_of_lt hmoves.toNat_lt)
    obtain rfl : t.width = width := width_eq_of_forall hrows h
    obtain ⟨p, hp⟩ := exists_parts?_eq hrows
    have htable : p.toTable = t := toTable_of_parts? hp
    have hrect : p.toTable.IsRectangular t.width := by rwa [htable]
    have hheader : p.header.width = t.width := hrect _ (Parts.mem_toTable.2 (.inl rfl))
    have hcells : p.header.cells ≠ [] := by
      rw [← List.length_pos_iff, ← Row.width, hheader]
      exact Nat.zero_lt_of_lt hmoves.toNat_lt
    have hcells' : (p.header.moved index.toNat dest.toNat).cells ≠ [] := by
      rw [← List.length_pos_iff, ← Row.width, Row.width_moved (hheader ▸ hmoves.symm.toNat_lt)]
      exact List.length_pos_iff.2 hcells
    have hp' : (t.moveColumn index dest).parts? =
        some (p.moveCells index.toNat dest.toNat) := by
      rw [h.moveColumn_eq hmoves, ← htable, ← Parts.toTable_moveCells]
      exact Parts.parts?_moveCells hrect hmoves.symm.toNat_lt hp
    refine format_eq_map_of_parts hp hp' hcells hcells' rfl
      (Parts.formatBy_moveCells hrect hmoves.toNat_lt hmoves.symm.toNat_lt style) fun q hq => ?_
    have hq := (Parts.reshaped_of_formatBy hq).isRectangular hrect
    have hwidth : q.toTable.width = t.width := width_eq_of_forall (List.cons_ne_nil _ _) hq
    rw [hq.moveColumn_eq (hwidth ▸ hmoves), Parts.toTable_moveCells]
  · rw [moveColumn_of_not_moves hmoves]
    refine format_eq_map_of_eq fun f hf => moveColumn_of_not_moves ?_
    rwa [h.width_of_format hf]

end Table

/-- Rows that are moved are formatted like rows that are moved afterwards, or refused for the same
fault, and so are columns where all rows have the same number of cells. -/
theorem format_moves (style : Style) (t : Table) :
    (∀ index dest : Int, (t.moveRow index dest).format style =
      (t.format style).map fun f => { f with table := f.table.moveRow index dest }) ∧
    ∀ width : Nat, t.IsRectangular width → ∀ index dest : Int,
      (t.moveColumn index dest).format style =
        (t.format style).map fun f => { f with table := f.table.moveColumn index dest } :=
  ⟨t.format_moveRow style, fun _ h => h.format_moveColumn style⟩

/-- A column takes its width and its alignment to the other side of a wider one, which declares
none, so that a style without a default has to refuse the table before and after. -/
theorem format_moves_widths :
    ∃ t moved, t = Table.mk [⟨"> ".toList, [⟨['a']⟩, ⟨"bb".toList⟩], "x".toList⟩,
        ⟨[], [⟨"-:".toList⟩, ⟨['-']⟩], []⟩, ⟨[], [⟨['c']⟩, ⟨"dddd".toList⟩], []⟩] ∧
      (t.moveColumn 0 1).format .standard = .ok moved ∧
      (t.format .standard).map (fun f => { f with table := f.table.moveColumn 0 1 }) = .ok moved ∧
      moved.table.lines =
        ["> | bb   |   a |".toList, "> | ---- | ---:|".toList, "> | dddd |   c |".toList] ∧
      (t.moveColumn 0 1).format
          { Style.standard with defaultAlignment := .choice (.alignment .unset) } =
        .error .noSide := by
  obtain ⟨-, hcolumns⟩ := format_moves .standard
    ⟨[⟨"> ".toList, [⟨['a']⟩, ⟨"bb".toList⟩], "x".toList⟩, ⟨[], [⟨"-:".toList⟩, ⟨['-']⟩], []⟩,
      ⟨[], [⟨['c']⟩, ⟨"dddd".toList⟩], []⟩]⟩
  have hmoved := hcolumns 2 (by simp [Table.IsRectangular, Row.width]) 0 1
  obtain ⟨-, hcolumns'⟩ := format_moves
    { Style.standard with defaultAlignment := .choice (.alignment .unset) }
    ⟨[⟨"> ".toList, [⟨['a']⟩, ⟨"bb".toList⟩], "x".toList⟩, ⟨[], [⟨"-:".toList⟩, ⟨['-']⟩], []⟩,
      ⟨[], [⟨['c']⟩, ⟨"dddd".toList⟩], []⟩]⟩
  have hrefused := hcolumns' 2 (by simp [Table.IsRectangular, Row.width]) 0 1
  exact ⟨_, _, rfl, hmoved, rfl, rfl, hrefused⟩

end PipeTable
