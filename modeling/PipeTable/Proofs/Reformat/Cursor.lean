import PipeTable.Proofs.Cursor.Return
import PipeTable.Proofs.Reformat.Lines

/-!
# Where the cursor goes

The cursor is carried from one text to another as a focus, and what counts is whether the focus of
the new point is the old one.  In a tidied row the only spans without text are the right margin and
an empty left margin (`Row.IsTidy.span_empty_iff`); there both ends are one place and the focus
comes back at the leading end, and everywhere else it comes back as it was.  This is the same for
every style, so a later style finds the cursor where it would have found it without the earlier one
(`Row.placeOf_edgeBack`).
-/

namespace PipeTable

/-! ## Tidied rows -/

namespace Row

section
variable {margin : Text} {width : Nat} {r : Row} {column : Int}

lemma IsTidy.cells_ne_nil (h : r.IsTidy margin width) (hpos : 0 < width) : r.cells ≠ [] := by
  have hlen : r.cells.length = width := h.width_eq
  rw [← List.length_pos_iff, hlen]
  exact hpos

/-- In a tidied row the right margin is empty, the left margin may be, and no cell is. -/
lemma IsTidy.span_empty_iff (h : r.IsTidy margin width) (hpos : 0 < width) (hleft : -1 ≤ column)
    (hright : column ≤ width) :
    (r.span column).stop = (r.span column).start ↔
      column = -1 ∧ margin = [] ∨ column = width := by
  have hcells := h.cells_ne_nil hpos
  have hwidth := h.width_eq
  have hlength {t : Text} {k : Nat} (hk : (min column r.width + 1).toNat = k)
      (ht : r.pieces[k]? = some t) :
      (r.span column).stop = (r.span column).start ↔ t = [] := by
    rw [span_stop_eq hcells (hk ▸ ht), ← List.length_eq_zero_iff]
    omega
  by_cases hmargin : column = -1
  · have hpiece : r.pieces[0]? = some margin := by rw [← h.marginLeft]; rfl
    rw [hlength (by omega) hpiece]
    constructor
    · exact fun hnil => .inl ⟨hmargin, hnil⟩
    · rintro (⟨-, hnil⟩ | hcolumn)
      · exact hnil
      · omega
  · by_cases hcolumn : column = width
    · rw [hlength (by omega) (getElem?_pieces_width r)]
      exact ⟨fun _ => .inr hcolumn, fun _ => h.marginRight⟩
    · have hk : column.toNat < r.cells.length := by
        have hlen : r.cells.length = width := hwidth
        omega
      rw [hlength (by omega) (getElem?_pieces (List.getElem?_eq_getElem hk))]
      constructor
      · exact fun hnil => absurd hnil (h.ne_nil _ (List.getElem_mem hk))
      · rintro (⟨hcolumn', -⟩ | hcolumn')
        · exact absurd hcolumn' hmargin
        · exact absurd hcolumn' hcolumn

/-- The place of a column's end in one tidied row is that of the end it is read as in another. -/
lemma placeOf_edgeBack {s : Row} (hr : r.IsTidy margin width) (hs : s.IsTidy margin width)
    (hpos : 0 < width) (hleft : -1 ≤ column) (hright : column ≤ width) (e : Edge) :
    s.placeOf column (r.edgeBack column e) = s.placeOf column e := by
  have hback : r.edgeBack column e = s.edgeBack column e := by
    simp only [edgeBack, hr.span_empty_iff hpos hleft hright, hs.span_empty_iff hpos hleft hright]
  rw [hback, placeOf_edgeBack_self]

end

end Row

/-! ## Foci -/

namespace Focus

@[simp] lemma column_afterInsertion (delimiterInserted : Bool) (f : Focus) :
    (f.afterInsertion delimiterInserted).column = f.column := by
  unfold afterInsertion
  split <;> rfl

@[simp] lemma edge_afterInsertion (delimiterInserted : Bool) (f : Focus) :
    (f.afterInsertion delimiterInserted).edge = f.edge := by
  unfold afterInsertion
  split <;> rfl

lemma row_afterInsertion (delimiterInserted : Bool) (f : Focus) :
    (f.afterInsertion delimiterInserted).row =
      if delimiterInserted ∧ 1 ≤ f.row then f.row + 1 else f.row := by
  cases delimiterInserted with
  | false => simp [afterInsertion]
  | true =>
    by_cases h : 1 ≤ f.row
    · simp [afterInsertion, h, withRow]
    · simp [afterInsertion, h]

@[simp] lemma afterInsertion_false (f : Focus) : f.afterInsertion false = f := by
  simp [afterInsertion]

end Focus

/-! ## Foci of tidied tables -/

namespace Table.Tidying

variable {style : Style} {t : Table} {p q : Parts}

/-- The row of a focus has its counterpart. -/
lemma exists_row? (h : t.Tidying style p q) {f : Focus} {r : Row} (hr : t.row? f.row = some r) :
    ∃ s, q.toTable.row? (f.afterInsertion p.delimiter?.isNone).row = some s := by
  have hbounds : 0 ≤ f.row ∧ f.row < t.height := by
    have hsome : (t.row? f.row).isSome := by rw [hr]; rfl
    rw [row?, Sequence.isSome_get?] at hsome
    simpa [Sequence.inBounds, height] using hsome
  have hheight := h.height_eq
  rw [← Option.isSome_iff_exists, row?, Sequence.isSome_get?, ← height, Focus.row_afterInsertion]
  unfold Sequence.inBounds
  rw [Bool.and_eq_true, decide_eq_true_iff, decide_eq_true_iff]
  cases hnone : p.delimiter?.isNone with
  | false =>
    simp only [hnone, Bool.false_eq_true, false_and, if_false] at hheight ⊢
    omega
  | true =>
    simp only [hnone, true_and, if_true] at hheight ⊢
    split <;> omega

/-- A focus on a table that is tidied keeps its column, and comes back from its new point at the end
that it is read as there. -/
lemma exists_refocused (h : t.Tidying style p q) {point : Point} {firstLine : Int} {f : Focus}
    (hf : t.focusOf? point firstLine = some f) :
    ∃ s, q.toTable.row? (f.afterInsertion p.delimiter?.isNone).row = some s ∧
      s.IsTidy p.header.marginLeft t.width ∧
      (q.toTable.pointOf? (f.afterInsertion p.delimiter?.isNone) firstLine).bind
          (q.toTable.focusOf? · firstLine) =
        some ⟨(f.afterInsertion p.delimiter?.isNone).row, f.column,
          (s.edgeBack f.column f.edge).offset⟩ := by
  obtain ⟨hleft, hright⟩ := column_bounds_of_focusOf? hf
  obtain ⟨r, hr, hrow⟩ := focusOf?_eq_some_iff.1 hf
  have hrow' : f.row = point.row - firstLine := congrArg Focus.row hrow
  rw [← hrow'] at hr
  obtain ⟨s, hs⟩ := h.exists_row? hr
  have htidy := h.isTidy s (mem_of_row? hs)
  refine ⟨s, hs, htidy, ?_⟩
  have hback := focusOf?_pointOf? hs (htidy.cells_ne_nil h.width_pos) (by simpa using hleft)
    (by simpa [htidy.width_eq] using hright) firstLine
  rw [Focus.column_afterInsertion, Focus.edge_afterInsertion] at hback
  exact hback

end Table.Tidying

/-! ## The cursor of reformatted lines -/

/-- The second focus is what the first one has become in a row of a tidied table: it is on the same
column, and on the same end of what stands there.  Where nothing stands there is one end only. -/
structure Focus.CarriedTo (s : Row) (f g : Focus) : Prop where
  column_eq : g.column = f.column
  neg_one_le_column : -1 ≤ f.column
  column_le_width : f.column ≤ s.width
  offset_of_cell : 0 ≤ f.column → f.column < s.width → g.offset = f.offset
  offset_of_marginLeft : f.column = -1 → s.marginLeft ≠ [] → g.offset = f.offset
  offset_of_no_marginLeft : f.column = -1 → s.marginLeft = [] → g.offset = Edge.leading.offset
  offset_of_marginRight : f.column = s.width → g.offset = Edge.leading.offset

lemma Row.IsTidy.carriedTo {margin : Text} {width : Nat} {s : Row} (h : s.IsTidy margin width)
    (hpos : 0 < width) {f : Focus} (hleft : -1 ≤ f.column) (hright : f.column ≤ width)
    (hoffset : f.edge.offset = f.offset) (row : Int) :
    f.CarriedTo s ⟨row, f.column, (s.edgeBack f.column f.edge).offset⟩ := by
  have hiff := h.span_empty_iff hpos hleft hright
  have hkept (hspan : ¬ (f.column = -1 ∧ margin = [] ∨ f.column = width)) :
      (s.edgeBack f.column f.edge).offset = f.offset := by
    rw [Row.edgeBack, if_neg (mt hiff.1 hspan), hoffset]
  have hlost (hspan : f.column = -1 ∧ margin = [] ∨ f.column = width) :
      (s.edgeBack f.column f.edge).offset = Edge.leading.offset := by
    rw [Row.edgeBack, if_pos (hiff.2 hspan)]
  have hwidth := h.width_eq
  refine
    { column_eq := rfl
      neg_one_le_column := hleft
      column_le_width := by omega
      offset_of_cell := fun hcell hlt => hkept ?_
      offset_of_marginLeft := fun hcolumn hne => hkept ?_
      offset_of_no_marginLeft := fun hcolumn hnil => hlost (.inl ⟨hcolumn, ?_⟩)
      offset_of_marginRight := fun hcolumn => hlost (.inr ?_) }
  · omega
  · rintro (⟨-, hnil⟩ | hcolumn')
    · exact hne (h.marginLeft.trans hnil)
    · omega
  · exact h.marginLeft.symm.trans hnil
  · rw [hcolumn, hwidth]

variable {style : Style} {rule : MarginRule} {firstLine : Int} {lines : List Text} {point : Point}
  {result : Reformatted}

/-- A cursor on one of the lines is carried to the same end of the same cell, and one that is on
none of them is lost.  Where it comes to stand is in the text of a line. -/
theorem reformat_keeps_cursor (hrule : rule.IsSingle) (hmin : 1 ≤ style.minDashes) {header : Row}
    (hheader : (readTable rule lines).rows.head? = some header) (hcells : header.cells ≠ [])
    (h : reformat style rule firstLine lines (some point) = .ok result) :
    (result.cursor? = none ↔
      ¬ (firstLine ≤ point.row ∧ point.row < firstLine + lines.length)) ∧
    ∀ point', result.cursor? = some point' →
      ∃ f g s,
        (readTable rule lines).focusOf? point firstLine = some f ∧
        (readTable rule result.lines).focusOf? point' firstLine = some g ∧
        (readTable rule result.lines).row? g.row = some s ∧
        (g.row = if result.delimiterInserted ∧ 1 ≤ f.row then f.row + 1 else f.row) ∧
        f.CarriedTo s g ∧
        ∃ line, Sequence.get? result.lines (point'.row - firstLine) = some line ∧
          0 ≤ point'.column ∧ point'.column ≤ line.length := by
  obtain ⟨p, hp, rfl⟩ := Table.exists_parts?_of_header hheader
  obtain ⟨q, htidying, hread, rfl⟩ := exists_of_reformat hrule hmin hp hcells h
  constructor
  · have hsome : ((readTable rule lines).focusOf? point firstLine).isSome ↔
        firstLine ≤ point.row ∧ point.row < firstLine + lines.length := by
      rw [Table.isSome_focusOf?, height_readTable, Sequence.inBounds, Bool.and_eq_true,
        decide_eq_true_iff, decide_eq_true_iff]
      omega
    rw [← hsome]
    cases hf : (readTable rule lines).focusOf? point firstLine with
    | none => simp [Table.Parts.reformatted, hf]
    | some f =>
      obtain ⟨s, hs, -, -⟩ := htidying.exists_refocused hf
      simp [Table.Parts.reformatted, hf, Table.pointOf?, hs]
  · intro point' hpoint'
    obtain ⟨f, hf, hpoint'⟩ := Option.bind_eq_some_iff.1 hpoint'
    obtain ⟨s, hs, htidy, hback⟩ := htidying.exists_refocused hf
    obtain ⟨hleft, hright⟩ := Table.column_bounds_of_focusOf? hf
    rw [hpoint', Option.bind_some] at hback
    rw [Table.pointOf?, hs, Option.map_some] at hpoint'
    obtain rfl := Option.some.inj hpoint'
    rw [hread]
    refine ⟨f, _, s, hf, hback, hs, Focus.row_afterInsertion _ f,
      htidy.carriedTo htidying.width_pos hleft hright (Table.offset_edge_of_focusOf? hf) _,
      s.text, ?_, Int.natCast_nonneg _, Int.ofNat_le.2 (s.placeOf_le_length_text _ _)⟩
    -- the lines of the result are the texts of the tidied rows
    have hrow : (f.afterInsertion p.delimiter?.isNone).row + firstLine - firstLine =
        (f.afterInsertion p.delimiter?.isNone).row := by omega
    obtain ⟨hnonneg, hget⟩ := Table.row?_eq_some_iff.1 hs
    dsimp only [Table.Parts.reformatted]
    rw [hrow, Sequence.get?, if_pos hnonneg, Table.lines, List.getElem?_map, hget]
    rfl

set_option maxRecDepth 4000 in
/-- A cursor in front of the text of a line without pipes stays there, a line further down and
behind the margin of the header. -/
theorem reformat_keeps_cursor_quoted :
    ∃ f g s,
      (readTable ⟨.ofList [['>']]⟩ ["> | a|`x|y`".toList, "".toList, "bb".toList]).focusOf?
        ⟨4, 1⟩ 2 = some f ∧
      (readTable ⟨.ofList [['>']]⟩
        ["> | a   | `x|y` |".toList, "> | --- | ----- |".toList, "> |     |       |".toList,
          "> | bb  |       |".toList]).focusOf? ⟨5, 3⟩ 2 = some g ∧
      f.CarriedTo s g := by
  have h : reformat .standard ⟨.ofList [['>']]⟩ 2
      ["> | a|`x|y`".toList, "".toList, "bb".toList] (some ⟨4, 1⟩) =
      .ok ⟨["> | a   | `x|y` |".toList, "> | --- | ----- |".toList, "> |     |       |".toList,
        "> | bb  |       |".toList], some ⟨5, 3⟩, "> ".toList, true⟩ := rfl
  have hkeeps := reformat_keeps_cursor (by decide) (by decide) rfl (by decide) h
  obtain ⟨f, g, s, hf, hg, -, -, hcarried, -⟩ := hkeeps.2 ⟨5, 3⟩ rfl
  exact ⟨f, g, s, hf, hg, hcarried⟩

end PipeTable
