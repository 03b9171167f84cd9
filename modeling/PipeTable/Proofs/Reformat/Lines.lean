import PipeTable.Proofs.Reformat.Tidy

/-!
# What reformatting keeps

The lines that reformatting gives are read back as the table that was tidied (`exists_of_reformat`),
and that table has all that the first one had: `reformat_keeps_cells` says which row and which cell
becomes which.  What the layouts add is told apart from what was there: cells without content where
a row was short, and a delimiter row that declares nothing where there was none.
-/

namespace PipeTable

variable {style : Style} {rule : MarginRule} {firstLine : Int} {lines : List Text}
  {cursor? : Option Point} {result : Reformatted}

/-! ## Lines of a table -/

/-- Lines whose header has no cells are left alone. -/
lemma reformat_of_noCells {p : Table.Parts} (hp : (readTable rule lines).parts? = some p)
    (hcells : p.header.cells = []) :
    reformat style rule firstLine lines cursor? = .ok
      { lines
        cursor? :=
          if (cursor?.bind ((readTable rule lines).focusOf? · firstLine)).isSome then cursor?
          else none
        marginLeft := p.header.marginLeft
        delimiterInserted := false } := by
  have hrows := Table.toTable_of_parts? hp
  simp only [reformat, ← hrows, Table.Parts.toTable, List.cons_append, hcells, if_true]

/-- Lines whose header has cells become those of the tidied table, whatever the style is. -/
lemma reformat_of_cells {p : Table.Parts} (hp : (readTable rule lines).parts? = some p)
    (hcells : p.header.cells ≠ []) :
    reformat style rule firstLine lines cursor? =
      ((readTable rule lines).tidy style).map fun tidied =>
        { lines := tidied.table.lines
          cursor? := (cursor?.bind ((readTable rule lines).focusOf? · firstLine)).bind fun f =>
            tidied.table.pointOf? (f.afterInsertion tidied.delimiterInserted) firstLine
          marginLeft := tidied.marginLeft
          delimiterInserted := tidied.delimiterInserted } := by
  have hrows : (readTable rule lines).rows = p.header :: (p.delimiter?.toList ++ p.body) := by
    rw [← Table.toTable_of_parts? hp]
    rfl
  simp only [reformat, hrows, hcells, if_false]
  cases (readTable rule lines).tidy style <;> rfl

/-- What reformatting makes of a focus on the first parts, of which the second ones are the tidied
form. -/
def Table.Parts.reformatted (p q : Table.Parts) (focus? : Option Focus) (firstLine : Int) :
    Reformatted where
  lines := q.toTable.lines
  cursor? := focus?.bind fun f =>
    q.toTable.pointOf? (f.afterInsertion p.delimiter?.isNone) firstLine
  marginLeft := p.header.marginLeft
  delimiterInserted := p.delimiter?.isNone

/-- Lines whose header has cells become those of their tidied parts. -/
lemma reformat_eq (hmin : 1 ≤ style.minDashes) {p : Table.Parts}
    (hp : (readTable rule lines).parts? = some p) (hcells : p.header.cells ≠ []) :
    reformat style rule firstLine lines cursor? =
      (p.tidyParts style (readTable rule lines).width).map fun q =>
        p.reformatted q (cursor?.bind ((readTable rule lines).focusOf? · firstLine)) firstLine := by
  rw [reformat_of_cells hp hcells, Table.tidy_eq hmin hp hcells]
  cases p.tidyParts style (readTable rule lines).width <;> rfl

/-- Lines that are reformatted are read as the tidied parts again. -/
lemma exists_of_reformat (hrule : rule.IsSingle) (hmin : 1 ≤ style.minDashes) {p : Table.Parts}
    (hp : (readTable rule lines).parts? = some p) (hcells : p.header.cells ≠ [])
    (h : reformat style rule firstLine lines cursor? = .ok result) :
    ∃ q, (readTable rule lines).Tidying style p q ∧
      readTable rule result.lines = q.toTable ∧
      result =
        p.reformatted q (cursor?.bind ((readTable rule lines).focusOf? · firstLine)) firstLine := by
  rw [reformat_eq hmin hp hcells] at h
  obtain ⟨q, hq, rfl⟩ := exists_of_map_eq_ok h
  have htidying : (readTable rule lines).Tidying style p q := ⟨hmin, hp, hcells, hq⟩
  refine ⟨q, htidying, ?_, rfl⟩
  exact readTable_lines hrule (htidying.readable (readTable_isParsed rule lines))

/-! ## Rows and their counterparts -/

namespace Table

/-- Every row of contents has its counterpart among the tidied rows. -/
lemma Tidying.exists_refilled {t : Table} {p q : Parts} (h : t.Tidying style p q) {i : Nat}
    {r : Row} (hr : t.rows[i]? = some r) (hi : i = 1 → t.delimiterRow? = none) :
    ∃ s, q.toTable.rows[rowAfter p.delimiter?.isNone i]? = some s ∧
      (r.complete t.width).Refilled p.header.marginLeft s := by
  rw [← toTable_of_parts? h.parts] at hr
  rw [← delimiter?_of_parts? h.parts] at hi
  rw [← Parts.marginLeft_complete style t.width p]
  obtain ⟨s, hs, hrs⟩ := h.reshaped.exists_getElem? (Parts.getElem?_complete hr style t.width)
  refine ⟨s, hs, ?_⟩
  have hcontents : ¬ (i = 1 ∧ p.delimiter?.isSome) := by
    rintro ⟨hone, hsome⟩
    rw [hi hone] at hsome
    cases hsome
  -- no row of contents comes second, since a delimiter row does
  have hplace : rowAfter p.delimiter?.isNone i ≠ 1 := by
    intro hone
    unfold rowAfter at hone
    cases hd : p.delimiter? with
    | none =>
      simp only [hd, Option.isNone_none, Bool.true_and, decide_eq_true_eq] at hone
      split at hone <;> omega
    | some d =>
      rw [hd] at hone hcontents
      exact hcontents ⟨hone, rfl⟩
  rwa [if_neg hcontents, if_neg fun hsecond => hplace hsecond.1] at hrs

/-- The alignments that a table declares, none without a delimiter row. -/
def declaredAlignments (t : Table) : List Alignment :=
  (t.delimiterRow?.map (·.alignments)).getD []

/-- The second table is the first one, tidied: it has the same contents at the same places, its
rows are filled up with cells without content, and its delimiter row with unset alignments.  The
delimiter row is the only one that may be new. -/
structure TidiedTo (t u : Table) (delimiterInserted : Bool) : Prop where
  inserted_eq : delimiterInserted = t.delimiterRow?.isNone
  height_eq : u.height = t.height + if delimiterInserted then 1 else 0
  width_eq : ∀ s ∈ u.rows, s.width = t.width
  marginLeft_eq : ∀ s ∈ u.rows, t.rows.head?.map (·.marginLeft) = some s.marginLeft
  marginRight_eq : ∀ s ∈ u.rows, s.marginRight = []
  /-- The delimiter row is told by its place, so the second row may be one of contents. -/
  contents_eq : ∀ i r, t.rows[i]? = some r → (i = 1 → t.delimiterRow? = none) →
    ∃ s, u.rows[rowAfter delimiterInserted i]? = some s ∧
      s.contents = r.contents ++ List.replicate (t.width - r.width) []
  alignments_eq : ∃ d, u.delimiterRow? = some d ∧
    d.cells.map (·.alignment?) =
      (t.declaredAlignments ++
        List.replicate (t.width - t.declaredAlignments.length) Alignment.unset).map some

lemma completeAlignments_eq {t : Table} {p : Parts} (hp : t.parts? = some p) :
    p.completeAlignments t.width =
      t.declaredAlignments ++ List.replicate (t.width - t.declaredAlignments.length) .unset := by
  unfold Parts.completeAlignments declaredAlignments
  rw [← delimiter?_of_parts? hp]
  cases p.delimiter? with
  | none => rfl
  | some d => simp

lemma Tidying.tidiedTo {t : Table} {p q : Parts} (h : t.Tidying style p q)
    (hparsed : ∀ r ∈ t.rows, r.IsParsed rule) : t.TidiedTo q.toTable p.delimiter?.isNone := by
  obtain ⟨d, hd, -, halign⟩ := h.exists_delimiter
  refine
    { inserted_eq := ?_
      height_eq := h.height_eq
      width_eq := ?_
      marginLeft_eq := ?_
      marginRight_eq := ?_
      contents_eq := ?_
      alignments_eq := ⟨d, ?_, ?_⟩ }
  · rw [delimiter?_of_parts? h.parts]
  · intro s hs
    exact (h.isTidy s hs).width_eq
  · intro s hs
    rw [header_of_parts? h.parts, (h.isTidy s hs).marginLeft]
    rfl
  · intro s hs
    exact (h.isTidy s hs).marginRight
  · intro i r hr hi
    obtain ⟨s, hs, hrs⟩ := h.exists_refilled hr hi
    have hblank : r.marginRight.isBlank := (hparsed r (List.mem_of_getElem? hr)).marginRight
    exact ⟨s, hs, by rw [hrs.contents_eq, Row.contents_complete hblank]⟩
  · rw [← delimiter?_of_parts? h.parts?_eq, hd]
  · rw [halign, completeAlignments_eq h.parts]

end Table

/-- Reformatting loses no cell, merges none and changes none: the lines are read back as the table
that they were first, tidied. -/
theorem reformat_keeps_cells (hrule : rule.IsSingle) (hmin : 1 ≤ style.minDashes)
    (h : reformat style rule firstLine lines cursor? = .ok result) :
    (∀ header, (readTable rule lines).rows.head? = some header → header.cells ≠ [] →
      (readTable rule lines).TidiedTo (readTable rule result.lines) result.delimiterInserted ∧
        result.marginLeft = header.marginLeft) ∧
    ((∀ header, (readTable rule lines).rows.head? = some header → header.cells = []) →
      result.lines = lines ∧ result.delimiterInserted = false) := by
  constructor
  · intro header hheader hcells
    obtain ⟨p, hp, rfl⟩ := Table.exists_parts?_of_header hheader
    obtain ⟨q, htidying, hread, rfl⟩ := exists_of_reformat hrule hmin hp hcells h
    refine ⟨?_, rfl⟩
    rw [hread]
    exact htidying.tidiedTo (readTable_isParsed rule lines)
  · intro hnone
    cases lines with
    | nil =>
      rw [reformat_nil] at h
      cases h
      exact ⟨rfl, rfl⟩
    | cons line rest =>
      obtain ⟨p, hp⟩ := Table.exists_parts?_eq (t := readTable rule (line :: rest))
        (List.cons_ne_nil _ _)
      rw [reformat_of_noCells hp (hnone p.header (Table.header_of_parts? hp))] at h
      cases h
      exact ⟨rfl, rfl⟩

set_option maxRecDepth 4000 in
/-- A quoted table with a pipe in a code span, a blank line and a line without pipes. -/
theorem reformat_keeps_cells_quoted :
    (readTable ⟨.ofList [['>']]⟩
      ["> | a|`x|y`".toList, "".toList, "bb".toList]).TidiedTo
      (readTable ⟨.ofList [['>']]⟩
        ["> | a   | `x|y` |".toList, "> | --- | ----- |".toList, "> |     |       |".toList,
          "> | bb  |       |".toList]) true := by
  have h : reformat .standard ⟨.ofList [['>']]⟩ 0
      ["> | a|`x|y`".toList, "".toList, "bb".toList] none =
      .ok ⟨["> | a   | `x|y` |".toList, "> | --- | ----- |".toList, "> |     |       |".toList,
        "> | bb  |       |".toList], none, "> ".toList, true⟩ := rfl
  have hkeeps := reformat_keeps_cells (by decide) (by decide) h
  exact (hkeeps.1 _ rfl (by decide)).1

end PipeTable
