import PipeTable.Proofs.Formatting.Width
import PipeTable.Proofs.Reformat.Lines

/-!
# The width of reformatted lines

What reformatting in the normal layout is seen by: all lines are equally wide, and so are all cells
of a column (`width_of_reformat_normal`).  A column has room for its widest content and for the
least number of dashes, and one column of the screen more on either side.

The measure has to be regular: with spaces or dashes of two columns an odd width could not be
filled, and the parts of a composed text need not add up to the whole.
-/

namespace PipeTable

variable {style : Style} {rule : MarginRule} {firstLine : Int} {lines : List Text}
  {cursor? : Option Point} {result : Reformatted}

namespace Table

variable {t : Table} {p q : Parts}

/-- Tidying in the normal layout gives every column the width that it needs in the completed table.
-/
lemma Tidying.width_of_normal (h : t.Tidying style p q)
    (hnormal : style.layout.layout? = some .normal) (hm : style.measure.IsRegular) {s : Row}
    (hs : s ∈ q.toTable.rows) {j : Nat} {c : Cell} (hc : s.cells[j]? = some c) :
    style.measure.width c.raw =
      (p.complete style t.width).toTable.fullWidth style j + 2 := by
  have hformat : (p.complete style t.width).formatNormal style = .ok q := by
    have htidied := h.tidied
    rwa [Parts.tidyParts, Parts.formatBy, hnormal] at htidied
  obtain ⟨d, hd, hdelimiter⟩ := exists_completed_delimiter h.minDashes h.parts h.header
  have hdwidth : d.width = t.width := by
    refine Parts.width_of_mem_complete ?_ (Parts.mem_toTable.2 (.inr (.inl hd)))
    intro r hr
    rw [toTable_of_parts? h.parts] at hr
    exact width_le hr
  have hj : j < d.width := by
    have hlt : j < s.width := (List.getElem?_eq_some_iff.1 hc).1
    rwa [(h.isTidy s hs).width_eq, ← hdwidth] at hlt
  rw [Parts.width_of_formatNormal hm hformat hs hc,
    Parts.columnWidth_eq_fullWidth (parts?_toTable hd hdelimiter) hd hj]

end Table

/-- The line of a tidied row, when the widths of its cells are known. -/
lemma Row.IsTidy.width_text {m : Measure} {margin : Text} {width : Nat} {r : Row}
    (h : r.IsTidy margin width) (hm : m.IsRegular) (hpos : 0 < width) {widths : Nat → Nat}
    (hwidths : ∀ (j : Nat) (c : Cell), r.cells[j]? = some c → m.width c.raw = widths j + 2) :
    m.width r.text = m.width margin + 1 + ((List.range width).map fun j => widths j + 3).sum := by
  have hne : r.cells ≠ [] := by
    rw [← List.length_pos_iff]
    exact Nat.lt_of_lt_of_eq hpos h.width_eq.symm
  have hcells : (r.cells.map fun c => m.width c.raw + 1) =
      (List.range width).map fun j => widths j + 3 := by
    refine List.ext_getElem ?_ ?_
    · rw [List.length_map, List.length_map, List.length_range]
      exact h.width_eq
    · intro j hj _
      have hlt : j < r.cells.length := by rwa [List.length_map] at hj
      rw [List.getElem_map, List.getElem_map, List.getElem_range,
        hwidths j _ (List.getElem?_eq_getElem hlt)]
  rw [hm.width_text hne, hcells, h.marginLeft, h.marginRight, Measure.width_nil, Nat.add_zero]

/-- In the normal layout every cell of a column takes the same width, the delimiter row included,
and so all lines of the result are equally wide. -/
theorem width_of_reformat_normal (hnormal : style.layout.layout? = some .normal)
    (hmin : 1 ≤ style.minDashes) (hm : style.measure.IsRegular) {header : Row}
    (hheader : (readTable rule lines).rows.head? = some header) (hcells : header.cells ≠ [])
    (h : reformat style rule firstLine lines cursor? = .ok result) :
    ∃ completed u, (readTable rule lines).complete style = .ok completed ∧
      completed.table.format style = .ok ⟨u, result.marginLeft⟩ ∧
      result.lines = u.lines ∧ (rule.IsSingle → readTable rule result.lines = u) ∧
      (∀ r ∈ u.rows, r.width = u.width ∧ ∀ j c, r.cells[j]? = some c →
        style.measure.width c.raw = completed.table.fullWidth style j + 2) ∧
      ∀ line ∈ result.lines, style.measure.width line = style.measure.width result.marginLeft + 1 +
        ((List.range u.width).map fun j => completed.table.fullWidth style j + 3).sum := by
  obtain ⟨p, hp, rfl⟩ := Table.exists_parts?_of_header hheader
  rw [reformat_eq hmin hp hcells] at h
  obtain ⟨q, hq, rfl⟩ := exists_of_map_eq_ok h
  have htidying : (readTable rule lines).Tidying style p q := ⟨hmin, hp, hcells, hq⟩
  have hwidth (r : Row) (hr : r ∈ q.toTable.rows) (j : Nat) (c : Cell)
      (hc : r.cells[j]? = some c) :=
    htidying.width_of_normal hnormal hm hr hc
  refine ⟨⟨(p.complete style (readTable rule lines).width).toTable, p.delimiter?.isNone⟩,
    q.toTable, Table.complete_eq_of_parts? style hp, ?_, rfl, ?_, ?_, ?_⟩
  · rw [Table.format_complete_eq hmin hp hcells, hq]
    rfl
  · intro hrule
    exact readTable_lines hrule (htidying.readable (readTable_isParsed rule lines))
  · intro r hr
    rw [htidying.width_eq]
    exact ⟨(htidying.isTidy r hr).width_eq, hwidth r hr⟩
  · intro line hline
    obtain ⟨r, hr, rfl⟩ := List.mem_map.1 hline
    rw [htidying.width_eq]
    exact (htidying.isTidy r hr).width_text hm htidying.width_pos (hwidth r hr)

set_option maxRecDepth 4000 in
/-- A quoted table with wide characters, a centered column and a short row.  Each of its lines takes
the two columns of the margin, one for the first pipe, and nine and six for the cells. -/
theorem width_of_reformat_normal_quoted :
    ["> | あああ |   b |".toList, "> |:------:| ---:|".toList, "> |   x    |     |".toList].map
      Measure.plain.width = List.replicate 3 (2 + 1 + (9 + 6)) := by
  have h : reformat .standard ⟨.ofList [['>']]⟩ 0
      ["> |あああ|b|".toList, "|:-:|-:|".toList, "x".toList] none =
      .ok ⟨["> | あああ |   b |".toList, "> |:------:| ---:|".toList,
        "> |   x    |     |".toList], none, "> ".toList, false⟩ := rfl
  have hnormal : Style.standard.layout.layout? = some .normal := rfl
  obtain ⟨completed, u, hcompleted, -, -, hread, -, hlines⟩ :=
    width_of_reformat_normal hnormal (by decide) Measure.isRegular_plain rfl (by decide) h
  cases hcompleted
  obtain rfl := hread (by decide)
  exact List.map_eq_replicate_iff.2 hlines

end PipeTable
