import PipeTable.Proofs.Cursor.Tiling

/-!
# Foci that come back

A focus has a point, and the point has a focus.  On a row with cells that is the focus itself, for
the place of a column's end is in the span of the column and in no other one (`focusOf?_pointOf?`).
What may get lost is the end: where nothing stands, both ends are one place, which is read as the
leading end (`Row.edgeBack`).

The main statement, `focus_comes_back`, says exactly when the end is kept.  Columns besides the row
need no rule of their own, because their points are those of its margins.
-/

namespace PipeTable

/-! ## Ends of columns -/

namespace Row

variable {r : Row} {column : Int}

/-- The end that a column's end is read as: the leading one where both ends are one place. -/
def edgeBack (r : Row) (column : Int) (e : Edge) : Edge :=
  if (r.span column).stop = (r.span column).start then .leading else e

/-- The end that is read stands where the end that was written does. -/
lemma placeOf_edgeBack_self (r : Row) (column : Int) (e : Edge) :
    r.placeOf column (r.edgeBack column e) = r.placeOf column e := by
  unfold edgeBack
  split
  · next hempty => rw [placeOf_of_empty hempty, placeOf_of_empty hempty]
  · rfl

/-- The end is kept, unless nothing stands in the column for the other end to be elsewhere. -/
lemma edgeBack_eq_self_iff (r : Row) (column : Int) (e : Edge) :
    r.edgeBack column e = e ↔ e = .leading ∨ (r.span column).start < (r.span column).stop := by
  obtain ⟨hle, -⟩ := mem_spans (span_mem r column)
  unfold edgeBack
  split
  · next hempty =>
    have hlt : ¬ (r.span column).start < (r.span column).stop := by omega
    rw [or_iff_left hlt, eq_comm]
  · next hne =>
    have hlt : (r.span column).start < (r.span column).stop := by omega
    exact ⟨fun _ => .inr hlt, fun _ => rfl⟩

/-! ## Columns besides the row -/

lemma span_eq_of_min_eq {column' : Int}
    (h : (min column r.width + 1).toNat = (min column' r.width + 1).toNat) :
    r.span column = r.span column' := by
  rw [span, span, h]

lemma placeOf_of_lt_neg_one (h : column < -1) (e : Edge) :
    r.placeOf column e = r.placeOf (-1) e := by
  have hspan : r.span column = r.span (-1) := span_eq_of_min_eq (by omega)
  have hcolumn : ¬ (r.width : Int) ≤ column := by omega
  have hmargin : ¬ (r.width : Int) ≤ -1 := by omega
  cases e with
  | leading => rw [placeOf, placeOf, hspan]
  | trailing => rw [placeOf, placeOf, hspan, if_neg hcolumn, if_neg hmargin]

lemma placeOf_of_width_lt (h : r.width < column) (e : Edge) :
    r.placeOf column e = r.placeOf r.width e := by
  have hspan : r.span column = r.span r.width := span_eq_of_min_eq (by omega)
  cases e with
  | leading => rw [placeOf, placeOf, hspan]
  | trailing => rw [placeOf, placeOf, hspan, if_pos (Int.le_of_lt h), if_pos (Int.le_refl _)]

end Row

/-! ## Foci and points -/

@[simp] lemma Edge.offset_inj {e e' : Edge} : e.offset = e'.offset ↔ e = e' := by
  cases e <;> cases e' <;> decide

lemma Focus.edge_eq_leading_iff {f : Focus} : f.edge = .leading ↔ f.offset = 0 := by
  unfold edge
  split
  · next h => exact iff_of_true rfl h
  · next h => exact iff_of_false Edge.noConfusion h

namespace Table

variable {t : Table} {f : Focus} {r : Row}

lemma focusOf?_eq_some_iff {point : Point} {firstLine : Int} :
    t.focusOf? point firstLine = some f ↔
      ∃ r, t.row? (point.row - firstLine) = some r ∧
        f = ⟨point.row - firstLine, r.columnAt point.column, (r.edgeAt point.column).offset⟩ := by
  rw [focusOf?, Option.map_eq_some_iff]
  exact exists_congr fun r => and_congr_right fun _ => eq_comm

/-- A focus comes back from its point, at the end that it is read as. -/
lemma focusOf?_pointOf? (hr : t.row? f.row = some r) (hcells : r.cells ≠ [])
    (hleft : -1 ≤ f.column) (hright : f.column ≤ r.width) (firstLine : Int) :
    (t.pointOf? f firstLine).bind (t.focusOf? · firstLine) =
      some ⟨f.row, f.column, (r.edgeBack f.column f.edge).offset⟩ := by
  have hrow : f.row + firstLine - firstLine = f.row := by omega
  rw [pointOf?, hr, Option.map_some, Option.bind_some, focusOf?, hrow, hr, Option.map_some,
    Row.columnAt_placeOf hcells hleft hright, Row.edgeAt_placeOf hcells hleft hright]
  rfl

/-- A table is as wide as the column of a focus, which may be the right margin of its row. -/
lemma column_bounds_of_focusOf? {point : Point} {firstLine : Int}
    (hf : t.focusOf? point firstLine = some f) : -1 ≤ f.column ∧ f.column ≤ t.width := by
  obtain ⟨r, hr, rfl⟩ := focusOf?_eq_some_iff.1 hf
  have hwidth : r.width ≤ t.width := width_le (mem_of_row? hr)
  have hle := r.columnAt_le_width point.column
  exact ⟨r.neg_one_le_columnAt point.column, by dsimp only; omega⟩

/-- A focus that comes from a point is on the end whose number it has. -/
lemma offset_edge_of_focusOf? {point : Point} {firstLine : Int}
    (hf : t.focusOf? point firstLine = some f) : f.edge.offset = f.offset := by
  obtain ⟨r, -, rfl⟩ := focusOf?_eq_some_iff.1 hf
  cases r.edgeAt point.column <;> rfl

/-- Columns with one place for every end have one point. -/
lemma pointOf?_withColumn_congr (hr : t.row? f.row = some r) {column column' : Int}
    (h : ∀ e, r.placeOf column e = r.placeOf column' e) (firstLine : Int) :
    t.pointOf? (f.withColumn column) firstLine = t.pointOf? (f.withColumn column') firstLine := by
  have hrow (column : Int) : t.row? (f.withColumn column).row = some r := hr
  rw [pointOf?, pointOf?, hrow, hrow, Option.map_some, Option.map_some]
  exact congrArg (fun place : Nat => some (Point.mk (f.row + firstLine) place)) (h f.edge)

end Table

/-- On a row with cells the focus of a focus's point is on the same row and column, and on the same
end exactly if that is the leading one or something stands in the column; else it is on the leading
end.  Columns in front of the left margin have the points of the left margin and columns behind the
right margin those of the right margin. -/
theorem focus_comes_back {t : Table} {f : Focus} {r : Row} (hr : t.row? f.row = some r)
    (firstLine : Int) :
    (r.cells ≠ [] → -1 ≤ f.column → f.column ≤ r.width →
      ∃ p g, t.pointOf? f firstLine = some p ∧ t.focusOf? p firstLine = some g ∧
        g.row = f.row ∧ g.column = f.column ∧
        (g.offset = f.edge.offset ↔
          f.offset = 0 ∨ (r.span f.column).start < (r.span f.column).stop) ∧
        (f.offset ≠ 0 → (r.span f.column).stop = (r.span f.column).start →
          g.offset = Edge.leading.offset)) ∧
    (∀ column < -1, t.pointOf? (f.withColumn column) firstLine =
      t.pointOf? (f.withColumn (-1)) firstLine) ∧
    ∀ column > (r.width : Int), t.pointOf? (f.withColumn column) firstLine =
      t.pointOf? (f.withColumn r.width) firstLine := by
  refine ⟨fun hcells hleft hright => ?_, fun column hcolumn => ?_, fun column hcolumn => ?_⟩
  · have hback := Table.focusOf?_pointOf? hr hcells hleft hright firstLine
    obtain ⟨p, hp, hg⟩ := Option.bind_eq_some_iff.1 hback
    refine ⟨p, _, hp, hg, rfl, rfl, ?_, fun _ hempty => ?_⟩
    · rw [Edge.offset_inj, Row.edgeBack_eq_self_iff, Focus.edge_eq_leading_iff]
    · rw [Row.edgeBack, if_pos hempty]
  · exact Table.pointOf?_withColumn_congr hr (Row.placeOf_of_lt_neg_one hcolumn) firstLine
  · exact Table.pointOf?_withColumn_congr hr (Row.placeOf_of_width_lt hcolumn) firstLine

/-- The end of an empty cell, given by a number of its own, comes back as its start; the end of a
cell with text comes back as it was; and a column behind the row is its right margin. -/
theorem focus_comes_back_empty :
    ∃ t r, t = Table.mk [r] ∧ r.text = "> | a ||  ".toList ∧
      (∃ p g, t.pointOf? ⟨0, 1, 5⟩ 2 = some p ∧ t.focusOf? p 2 = some g ∧ g.column = 1 ∧
        g.offset = Edge.leading.offset) ∧
      (∃ p g, t.pointOf? ⟨0, 0, 5⟩ 2 = some p ∧ t.focusOf? p 2 = some g ∧ g.column = 0 ∧
        g.offset = Edge.trailing.offset) ∧
      t.pointOf? ⟨0, 9, 1⟩ 2 = t.pointOf? ⟨0, 2, 1⟩ 2 := by
  let r : Row := ⟨"> ".toList, [⟨" a ".toList⟩, ⟨[]⟩], "  ".toList⟩
  have hr : (Table.mk [r]).row? 0 = some r := rfl
  obtain ⟨hempty, -, hbehind⟩ := focus_comes_back (f := ⟨0, 1, 5⟩) hr 2
  obtain ⟨htext, -, -⟩ := focus_comes_back (f := ⟨0, 0, 5⟩) hr 2
  refine ⟨_, r, rfl, rfl, ?_, ?_, ?_⟩
  · obtain ⟨p, g, hp, hg, -, hcolumn, -, hoffset⟩ :=
      hempty (List.cons_ne_nil _ _) (by decide) (by decide)
    exact ⟨p, g, hp, hg, hcolumn, hoffset (by decide) rfl⟩
  · obtain ⟨p, g, hp, hg, -, hcolumn, hoffset, -⟩ :=
      htext (List.cons_ne_nil _ _) (by decide) (by decide)
    exact ⟨p, g, hp, hg, hcolumn, hoffset.2 (.inr (by decide))⟩
  · obtain ⟨-, -, hbehind'⟩ := focus_comes_back (f := ⟨0, 1, 1⟩) hr 2
    exact hbehind' 9 (by decide)

end PipeTable
