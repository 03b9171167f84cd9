import PipeTable.Formatting
import PipeTable.Proofs.Refusal

/-!
# What formatting looks at

Of a table, formatting looks at the left margin of the header, at the contents of the cells outside
the delimiter row and at the alignments that the delimiter row declares.  `Parts.gist` collects
these, and tables with the same gist are formatted to the same table, or refused for the same fault
(`format_congr`).  No blank around a content and no number of dashes plays a part, which is why a
table can be formatted again and again.
-/

namespace PipeTable

/-- The contents of the cells of a row. -/
def Row.contents (r : Row) : List Text := r.cells.map (·.content)

@[simp] lemma Row.length_contents (r : Row) : r.contents.length = r.width := by
  simp [contents, width]

@[simp] lemma Row.length_alignments (r : Row) : r.alignments.length = r.width := by
  simp [alignments, width]

/-- All that formatting looks at. -/
structure Gist where
  margin : Text
  header : List Text
  /-- The alignments of the delimiter row, if there is one. -/
  alignments? : Option (List Alignment)
  body : List (List Text)
  deriving DecidableEq, Repr

namespace Table.Parts

/-- The gist of the parts of a table. -/
def gist (p : Parts) : Gist where
  margin := p.header.marginLeft
  header := p.header.contents
  alignments? := p.delimiter?.map (·.alignments)
  body := p.body.map (·.contents)

/-! ## Columns -/

/-- The contents of a column from the top, those of the delimiter row left out. -/
def columnContents (p : Parts) (column : Nat) : List Text :=
  p.contentRows.filterMap fun r => r.contents[column]?

/-- The width that a column has at least. -/
def leastWidth (style : Style) (p : Parts) (column : Nat) : Nat :=
  if column < (p.delimiter?.map (·.width)).getD 0 then style.minDashes.toNat else 0

/-- The width of a column is that of its widest content, or its least width. -/
lemma columnWidth_eq (style : Style) (p : Parts) (column : Nat) :
    p.columnWidth style column =
      (p.columnContents column).foldr (fun t widest => max (style.measure.width t) widest)
        (p.leastWidth style column) := by
  rw [columnContents, List.foldr_filterMap]
  unfold columnWidth
  dsimp only
  congr 1
  · funext r widest
    have hcontents : r.contents[column]? = (r.cells[column]?).map (·.content) := by
      simp [Row.contents]
    rw [hcontents]
    cases r.cells[column]? <;> rfl
  · unfold leastWidth
    cases p.delimiter? <;> simp

lemma le_columnWidth (style : Style) (p : Parts) (column : Nat) :
    p.leastWidth style column ≤ p.columnWidth style column := by
  rw [columnWidth_eq]
  induction p.columnContents column with
  | nil => exact Nat.le_refl _
  | cons t ts ih => exact Nat.le_trans ih (Nat.le_max_right _ _)

/-! ## The same widths -/

section
variable {p q : Parts}
  (hcontents : p.contentRows.map (·.contents) = q.contentRows.map (·.contents))
  (hwidth : p.delimiter?.map (·.width) = q.delimiter?.map (·.width))
include hcontents hwidth

/-- The width of a table can be told from its contents and from the width of its delimiter row. -/
lemma width_congr : p.toTable.width = q.toTable.width := by
  have hmap (t : Table) : t.width = (t.rows.map (·.width)).foldr max 0 := by
    rw [List.foldr_map]
    rfl
  have hrows (p : Parts) : p.toTable.rows.map (·.width) =
      p.header.contents.length :: (p.delimiter?.map (·.width)).toList ++
        (p.body.map (·.contents)).map List.length := by
    cases hd : p.delimiter? <;> simp [toTable, hd, Function.comp_def]
  have hheader : p.header.contents = q.header.contents := (List.cons.inj hcontents).1
  have hbody : p.body.map (·.contents) = q.body.map (·.contents) := (List.cons.inj hcontents).2
  rw [hmap, hmap, hrows, hrows, hheader, hbody, hwidth]

/-- So can the widths of its columns. -/
lemma columnWidth_congr (style : Style) (column : Nat) :
    p.columnWidth style column = q.columnWidth style column := by
  have hcolumn : p.columnContents column = q.columnContents column := by
    have hmap (p : Parts) : p.columnContents column =
        (p.contentRows.map (·.contents)).filterMap fun ts => ts[column]? := by
      rw [List.filterMap_map]
      rfl
    rw [hmap, hmap, hcontents]
  rw [columnWidth_eq, columnWidth_eq, hcolumn, leastWidth, leastWidth, hwidth]

end

/-! ## The same gist -/

section
variable {p q : Parts}

lemma contentRows_of_gist (h : p.gist = q.gist) :
    p.contentRows.map (·.contents) = q.contentRows.map (·.contents) := by
  have hheader : p.header.contents = q.header.contents := congrArg Gist.header h
  have hbody : p.body.map (·.contents) = q.body.map (·.contents) := congrArg Gist.body h
  simp only [contentRows, List.map_cons, hheader, hbody]

lemma delimiter_width_of_gist (h : p.gist = q.gist) :
    p.delimiter?.map (·.width) = q.delimiter?.map (·.width) := by
  have halign : p.delimiter?.map (·.alignments) = q.delimiter?.map (·.alignments) :=
    congrArg Gist.alignments? h
  have hwidth (d? : Option Row) :
      d?.map (·.width) = (d?.map (·.alignments)).map List.length := by
    cases d? <;> simp
  rw [hwidth, hwidth, halign]

lemma columns_of_gist (style : Style) (fallback : Alignment) (h : p.gist = q.gist) :
    p.columns style fallback = q.columns style fallback := by
  have hdeclared (column : Nat) : p.declared column = q.declared column := by
    have halign : p.delimiter?.map (·.alignments) = q.delimiter?.map (·.alignments) :=
      congrArg Gist.alignments? h
    have hmap (p : Parts) : p.declared column =
        (((p.delimiter?.map (·.alignments)).getD [])[column]?).getD .unset := by
      unfold declared
      cases p.delimiter? <;> simp
    rw [hmap, hmap, halign]
  have hcontents := contentRows_of_gist h
  have hwidth := delimiter_width_of_gist h
  simp only [columns, width_congr hcontents hwidth, columnWidth_congr hcontents hwidth style,
    hdeclared]

end

end Table.Parts

/-! ## Formatting by the gist -/

namespace Row

/-- Fills the columns with the contents of a row. -/
def fillContents (style : Style) (columns : List Column) (override : Option Alignment)
    (contents : List Text) : Except Fault (List Cell) :=
  (contents.zip columns).mapM fun (t, column) => do
    let alignment := override.getD column.alignment
    let text ← style.measure.align t column.width (.choice (.alignment alignment))
    return ⟨padded text⟩

lemma fillColumns_eq (style : Style) (columns : List Column) (override : Option Alignment)
    (r : Row) :
    r.fillColumns style columns override = fillContents style columns override r.contents := by
  rw [fillColumns, fillContents, contents, List.zip_map_left, List.mapM_map]
  rfl

lemma padCells_eq (r : Row) : r.padCells = r.contents.map fun t => ⟨padded t⟩ := by
  rw [padCells, contents, List.map_map]
  rfl

/-- Writes bars for some alignments to the widths of their columns. -/
def fillAlignments (columns : List Column) (alignments : List Alignment) : List Cell :=
  (alignments.zip columns).map fun (alignment, column) => ⟨delimiterText alignment column.width⟩

end Row

namespace Table.Parts

lemma formatNormal_eq (style : Style) (p : Parts) :
    p.formatNormal style = do
      let fallback ← style.defaultAlignment.toAlignment
      let override ← style.headerOverride
      let columns := p.columns style fallback
      let header ← Row.fillContents style columns override p.gist.header
      let body ← p.gist.body.mapM (Row.fillContents style columns none)
      return {
        header := .formatted p.gist.margin header
        delimiter? := p.gist.alignments?.map fun alignments =>
          .formatted p.gist.margin (Row.fillAlignments columns alignments)
        body := body.map (.formatted p.gist.margin) } := by
  simp only [formatNormal, Row.fillColumns_eq, gist, List.mapM_map, Option.map_map]
  rfl

lemma formatWeak_eq (style : Style) (p : Parts) :
    p.formatWeak style =
      { header := .formatted p.gist.margin (p.gist.header.map fun t => ⟨padded t⟩)
        delimiter? := p.gist.alignments?.map fun alignments => .formatted p.gist.margin
          (alignments.map fun alignment => ⟨delimiterText alignment style.minDashes⟩)
        body := p.gist.body.map fun contents =>
          .formatted p.gist.margin (contents.map fun t => ⟨padded t⟩) } := by
  simp only [formatWeak, Row.padCells_eq, gist, List.map_map, Option.map_map]
  rfl

/-- Tables with the same gist are formatted alike. -/
lemma format_congr (style : Style) (layout : Layout) {p q : Parts} (h : p.gist = q.gist) :
    p.format style layout = q.format style layout := by
  cases layout with
  | normal =>
    simp only [format, formatNormal_eq, columns_of_gist style _ h, h]
  | weak => rw [format, format, formatWeak_eq, formatWeak_eq, h]

end Table.Parts

end PipeTable
