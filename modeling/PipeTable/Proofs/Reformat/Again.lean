import PipeTable.Proofs.Reformat.Cursor

/-!
# Reformatting again

Reformatting leaves nothing behind that a later reformatting could tell: the tidied parts are those
that the later style makes of the first table (`Tidying.tidyParts_eq`), and the cursor comes back
from the first result with the focus that it had, as far as a tidied row can show it
(`placeOf_edgeBack`).  So the last style alone decides what the lines become, and where the cursor
goes (`reformat_reformat`).
-/

namespace PipeTable

variable {style style' : Style} {rule : MarginRule} {firstLine : Int} {lines : List Text}
  {cursor? : Option Point} {result result' : Reformatted}

namespace Table

/-- A focus that went through one tidied table leads to the same point in another as if it had not.
-/
lemma Tidying.pointOf?_refocused {t : Table} {p q q' : Parts} (h : t.Tidying style p q)
    (h' : t.Tidying style' p q') {point : Point} {f : Focus}
    (hf : t.focusOf? point firstLine = some f) :
    ((q.toTable.pointOf? (f.afterInsertion p.delimiter?.isNone) firstLine).bind
        (q.toTable.focusOf? · firstLine)).bind (q'.toTable.pointOf? · firstLine) =
      q'.toTable.pointOf? (f.afterInsertion p.delimiter?.isNone) firstLine := by
  obtain ⟨hleft, hright⟩ := column_bounds_of_focusOf? hf
  obtain ⟨s, hs, htidy, hback⟩ := h.exists_refocused hf
  obtain ⟨s', hs', htidy', -⟩ := h'.exists_refocused hf
  have hedge (row : Int) (e : Edge) : (Focus.mk row f.column e.offset).edge = e := by
    cases e <;> rfl
  have hplace := Row.placeOf_edgeBack htidy htidy' h.width_pos hleft hright f.edge
  rw [hback, Option.bind_some, pointOf?, pointOf?, hs', Option.map_some, Option.map_some, hedge,
    Focus.column_afterInsertion, Focus.edge_afterInsertion, hplace]

end Table

/-- The last reformatting wins: what an earlier one did to the lines and to the cursor makes no
difference, but for the delimiter row, which is no longer missing. -/
theorem reformat_reformat (hrule : rule.IsSingle) (hmin : 1 ≤ style.minDashes)
    (hmin' : 1 ≤ style'.minDashes)
    (h : reformat style rule firstLine lines cursor? = .ok result)
    (h' : reformat style' rule firstLine lines cursor? = .ok result') :
    reformat style' rule firstLine result.lines result.cursor? =
      .ok { result' with delimiterInserted := false } := by
  cases lines with
  | nil =>
    rw [reformat_nil] at h h'
    cases h
    cases h'
    rfl
  | cons line rest =>
    obtain ⟨p, hp⟩ := Table.exists_parts?_eq (t := readTable rule (line :: rest))
      (List.cons_ne_nil _ _)
    by_cases hcells : p.header.cells = []
    · rw [reformat_of_noCells hp hcells] at h h'
      cases h
      cases h'
      rw [reformat_of_noCells hp hcells]
      cases hf : (cursor?.bind ((readTable rule (line :: rest)).focusOf? · firstLine)).isSome with
      | true => simp [hf]
      | false => simp
    · obtain ⟨q, htidying, hread, rfl⟩ := exists_of_reformat hrule hmin hp hcells h
      obtain ⟨q', htidying', -, rfl⟩ := exists_of_reformat hrule hmin' hp hcells h'
      obtain ⟨d, hd, -, -⟩ := htidying.exists_delimiter
      have htidy := htidying.isTidy q.header (Table.Parts.mem_toTable.2 (.inl rfl))
      have hheader : q.header.cells ≠ [] := htidy.cells_ne_nil htidying.width_pos
      have hagain : q.tidyParts style' q.toTable.width = .ok q' := by
        rw [htidying.width_eq, htidying.tidyParts_eq style', htidying'.tidied]
      rw [reformat_eq hmin' (by rw [hread]; exact htidying.parts?_eq) hheader, hread, hagain,
        Except.map]
      simp only [Table.Parts.reformatted, hd, htidy.marginLeft, Option.isNone_some,
        Focus.afterInsertion_false]
      cases hf : cursor?.bind ((readTable rule (line :: rest)).focusOf? · firstLine) with
      | none => rfl
      | some f =>
        obtain ⟨point, -, hpoint⟩ := Option.bind_eq_some_iff.1 hf
        simp only [Option.bind_some]
        rw [htidying.pointOf?_refocused htidying' hpoint]

set_option maxRecDepth 4000 in
/-- The weak layout in between leaves no trace in the normal one. -/
theorem reformat_reformat_quoted :
    reformat .standard ⟨.ofList [['>']]⟩ 2
      ["> | a | `x|y` |".toList, "> | --- | --- |".toList, "> |  |  |".toList, "> | bb |  |".toList]
      (some ⟨5, 3⟩) =
    .ok ⟨["> | a   | `x|y` |".toList, "> | --- | ----- |".toList, "> |     |       |".toList,
      "> | bb  |       |".toList], some ⟨5, 3⟩, "> ".toList, false⟩ := by
  have h : reformat { Style.standard with layout := .choice (.layout .weak) } ⟨.ofList [['>']]⟩ 2
      ["> | a|`x|y`".toList, "".toList, "bb".toList] (some ⟨4, 1⟩) =
      .ok ⟨["> | a | `x|y` |".toList, "> | --- | --- |".toList, "> |  |  |".toList,
        "> | bb |  |".toList], some ⟨5, 3⟩, "> ".toList, true⟩ := rfl
  have h' : reformat .standard ⟨.ofList [['>']]⟩ 2
      ["> | a|`x|y`".toList, "".toList, "bb".toList] (some ⟨4, 1⟩) =
      .ok ⟨["> | a   | `x|y` |".toList, "> | --- | ----- |".toList, "> |     |       |".toList,
        "> | bb  |       |".toList], some ⟨5, 3⟩, "> ".toList, true⟩ := rfl
  exact reformat_reformat (by decide) (by decide) (by decide) h h'

end PipeTable
