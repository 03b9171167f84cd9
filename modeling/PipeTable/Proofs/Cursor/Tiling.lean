import PipeTable.Cursor.Mapping
import PipeTable.Proofs.Cursor.Span
import PipeTable.Proofs.Table

/-!
# Spans tile the text of a row

The spans of a row with cells are cut out of its text: what stands in the span of a column is the
left margin, the cell or the right margin of that column (`Row.slice_span_left`,
`Row.slice_span_cell`, `Row.slice_span_right`).  They leave nothing out but the pipes between them,
so every place of the text is in a span (`Row.exists_column`), and in one only, the one in which the
place is looked up (`Row.columnAt_eq`).

The main statement, `focusOf?_finds_span`, says of a whole table what focus each point has: on a row
with cells the span that it is in, with the ends of the text for points besides the text; on a row
without cells the left margin or the end of the text; and none besides the rows.
-/

namespace PipeTable

/-! ## Slices -/

namespace Span

/-- What a span covers of a text. -/
def slice (s : Span) (t : Text) : Text := (t.drop s.start).take (s.stop - s.start)

/-- A place in a span is at one of its ends or between them. -/
def Has (s : Span) (place : Int) : Prop := s.start ≤ place ∧ place ≤ s.stop

instance (s : Span) : DecidablePred s.Has := fun place =>
  inferInstanceAs (Decidable ((s.start : Int) ≤ place ∧ place ≤ (s.stop : Int)))

end Span

/-- The spans of some texts are cut out of what these make up, wherever it stands. -/
lemma exists_slice_spansFrom (front : Text) {ts : List Text} {k : Nat} {t : Text}
    (h : ts[k]? = some t) : ∃ s, (spansFrom front.length ts)[k]? = some s ∧
      s.slice (front ++ List.intercalate [pipe] ts) = t := by
  induction ts generalizing front k with
  | nil => simp at h
  | cons u ts ih =>
    cases k with
    | zero =>
      obtain rfl : u = t := by simpa using h
      refine ⟨_, rfl, ?_⟩
      obtain ⟨rest, hrest⟩ : ∃ rest, List.intercalate [pipe] (u :: ts) = u ++ rest := by
        cases ts with
        | nil => exact ⟨[], by simp⟩
        | cons v ts => exact ⟨_, by rw [List.intercalate_cons_cons, List.append_assoc]⟩
      rw [Span.slice, hrest, List.drop_left]
      simp
    | succ k =>
      have hk : ts[k]? = some t := by simpa using h
      cases ts with
      | nil => simp at hk
      | cons v ts =>
        obtain ⟨s, hs, hslice⟩ := ih (front ++ u ++ [pipe]) hk
        refine ⟨s, ?_, ?_⟩
        · simpa [spansFrom, Nat.add_assoc] using hs
        · rw [← hslice, List.intercalate_cons_cons]
          simp only [List.append_assoc]

/-- Between the first place and the last one there is no place that is in no span. -/
lemma exists_mem_spansFrom (start : Nat) {ts : List Text} (hts : ts ≠ []) {place : Int}
    (hstart : start ≤ place) (hstop : place ≤ start + (List.intercalate [pipe] ts).length) :
    ∃ s ∈ spansFrom start ts, s.Has place := by
  induction ts generalizing start with
  | nil => exact absurd rfl hts
  | cons t ts ih =>
    by_cases hfirst : place ≤ start + t.length
    · exact ⟨_, List.mem_cons_self, hstart, by simpa using hfirst⟩
    · cases ts with
      | nil =>
        rw [List.intercalate_singleton] at hstop
        exact absurd hstop hfirst
      | cons u ts =>
        rw [List.intercalate_cons_cons, List.length_append, List.length_append,
          List.length_singleton] at hstop
        obtain ⟨s, hs, hhas⟩ :=
          ih (start + t.length + 1) (List.cons_ne_nil u ts) (by omega) (by omega)
        exact ⟨s, List.mem_cons_of_mem _ hs, hhas⟩

namespace Row

variable {r : Row}

/-! ## Rows with cells -/

section
variable (hcells : r.cells ≠ [])
include hcells

/-- The span of a column covers the piece that stands there. -/
lemma slice_span {column : Int} {t : Text}
    (h : r.pieces[(min column r.width + 1).toNat]? = some t) :
    (r.span column).slice r.text = t := by
  obtain ⟨s, hs, hslice⟩ := exists_slice_spansFrom [] h
  rw [span_eq_of_spansFrom hcells hs, text, if_neg hcells]
  exact hslice

lemma slice_span_left : (r.span (-1)).slice r.text = r.marginLeft := by
  have hplace : (min (-1) (r.width : Int) + 1).toNat = 0 := by omega
  exact slice_span hcells (by rw [hplace]; rfl)

lemma slice_span_cell {k : Nat} {c : Cell} (h : r.cells[k]? = some c) :
    (r.span k).slice r.text = c.raw := by
  have hk : k < r.width := (List.getElem?_eq_some_iff.1 h).1
  have hplace : (min (k : Int) r.width + 1).toNat = k + 1 := by omega
  exact slice_span hcells (by rw [hplace]; exact getElem?_pieces h)

lemma slice_span_right : (r.span r.width).slice r.text = r.marginRight := by
  have hplace : (min (r.width : Int) r.width + 1).toNat = r.width + 1 := by omega
  exact slice_span hcells (by rw [hplace]; exact getElem?_pieces_width r)

/-- Every place of the text is in the span of a column. -/
lemma exists_column {place : Int} (hpos : 0 ≤ place) (hplace : place ≤ r.text.length) :
    ∃ column : Int, (-1 ≤ column ∧ column ≤ r.width) ∧ (r.span column).Has place := by
  rw [text, if_neg hcells] at hplace
  have hpieces : r.pieces ≠ [] := List.cons_ne_nil _ _
  obtain ⟨s, hs, hhas⟩ := exists_mem_spansFrom 0 hpieces (by omega) (by omega : place ≤ _)
  have hspans : s ∈ r.spans := by rwa [spans, if_neg hcells]
  obtain ⟨k, hk, rfl⟩ := List.getElem_of_mem hspans
  rw [length_spans] at hk
  have hcolumn : (min ((k : Int) - 1) r.width + 1).toNat = k := by omega
  refine ⟨(k : Int) - 1, by omega, ?_⟩
  rw [span_eq_getElem r _ (lt_length_spans r _)]
  simpa only [hcolumn] using hhas

/-- It is in no other one, because places are looked up in the one that they are in. -/
lemma existsUnique_column {place : Int} (hpos : 0 ≤ place) (hplace : place ≤ r.text.length) :
    ∃! column : Int, (-1 ≤ column ∧ column ≤ r.width) ∧ (r.span column).Has place := by
  obtain ⟨column, hbounds, hhas⟩ := exists_column hcells hpos hplace
  refine ⟨column, ⟨hbounds, hhas⟩, ?_⟩
  rintro column' ⟨hbounds', hhas'⟩
  rw [← columnAt_eq hcells hbounds.1 hbounds.2 hhas.1 hhas.2,
    columnAt_eq hcells hbounds'.1 hbounds'.2 hhas'.1 hhas'.2]

lemma edgeAt_eq {column : Int} (hleft : -1 ≤ column) (hright : column ≤ r.width) {place : Int}
    (hhas : (r.span column).Has place) :
    r.edgeAt place = if place = (r.span column).start then .leading else .trailing := by
  obtain ⟨hstart, hstop⟩ := hhas
  rw [edgeAt, columnAt_eq hcells hleft hright hstart hstop]
  by_cases hplace : place = (r.span column).start
  · rw [if_pos hplace, if_pos (Int.le_of_eq hplace)]
  · rw [if_neg hplace, if_neg (by omega)]

end

/-! ## Places besides the text -/

/-- No span reaches a place behind the text. -/
lemma columnAt_of_length_text_lt {place : Int} (h : r.text.length < place) :
    r.columnAt place = r.width := by
  have hnone : (r.spans.findIdx fun s => place ≤ s.stop) = r.spans.length := by
    rw [List.findIdx_eq_length]
    intro s hs
    have hstop := (mem_spans hs).2
    exact decide_eq_false (by omega)
  rw [columnAt, hnone, length_spans]
  omega

lemma edgeAt_of_length_text_lt {place : Int} (h : r.text.length < place) :
    r.edgeAt place = .trailing := by
  obtain ⟨hstart, hstop⟩ := mem_spans (span_mem r (r.columnAt place))
  rw [edgeAt, if_neg (by omega)]

end Row

/-! ## Foci of points -/

/-- The spans of a row cover its pieces, and every place of its text is in one of them only. -/
structure Row.IsTiled (r : Row) : Prop where
  left : (r.span (-1)).slice r.text = r.marginLeft
  cell : ∀ (k : Nat) (c : Cell), r.cells[k]? = some c → (r.span k).slice r.text = c.raw
  right : (r.span r.width).slice r.text = r.marginRight
  column : ∀ place : Int, 0 ≤ place → place ≤ r.text.length →
    ∃! column : Int, (-1 ≤ column ∧ column ≤ r.width) ∧ (r.span column).Has place

lemma Row.isTiled {r : Row} (hcells : r.cells ≠ []) : r.IsTiled where
  left := slice_span_left hcells
  cell _ _ := slice_span_cell hcells
  right := slice_span_right hcells
  column _ := existsUnique_column hcells

/-- The focus on a column of a row at a place in its span. -/
def Row.focusIn (r : Row) (row column place : Int) : Focus :=
  ⟨row, column, (if place = (r.span column).start then Edge.leading else .trailing).offset⟩

namespace Table

variable {t : Table} {row : Int} {r : Row}

lemma focusOf?_add (hr : t.row? row = some r) (place firstLine : Int) :
    t.focusOf? ⟨row + firstLine, place⟩ firstLine =
      some ⟨row, r.columnAt place, (r.edgeAt place).offset⟩ := by
  have hrow : row + firstLine - firstLine = row := by omega
  rw [focusOf?, hrow, hr, Option.map_some]

lemma pointOf?_eq (hr : t.row? row = some r) (column : Int) (e : Edge) (firstLine : Int) :
    t.pointOf? ⟨row, column, e.offset⟩ firstLine =
      some ⟨row + firstLine, r.placeOf column e⟩ := by
  have hedge : Focus.edge ⟨row, column, e.offset⟩ = e := by cases e <;> rfl
  rw [pointOf?, hr, Option.map_some, hedge]

/-- What a cursor finds on a row with cells. -/
structure FindsSpans (t : Table) (row : Int) (r : Row) (firstLine : Int) : Prop where
  /-- The ends of a cell are those of its span. -/
  pointOf?_eq : ∀ k : Nat, k < r.width →
    t.pointOf? ⟨row, k, Edge.leading.offset⟩ firstLine =
        some ⟨row + firstLine, (r.span k).start⟩ ∧
      t.pointOf? ⟨row, k, Edge.trailing.offset⟩ firstLine =
        some ⟨row + firstLine, (r.span k).stop⟩
  /-- A point in a span has the focus on it that is leading at its start only. -/
  focusOf?_eq : ∀ column place : Int, -1 ≤ column → column ≤ r.width →
    (r.span column).Has place →
      t.focusOf? ⟨row + firstLine, place⟩ firstLine = some (r.focusIn row column place)
  /-- A focus on the span of a cell is on the cell. -/
  focusedCell?_eq : ∀ (k : Nat) (c : Cell) (place : Int), r.cells[k]? = some c →
    t.focusedCell? (r.focusIn row k place) = some c
  /-- A focus on a margin is on no cell. -/
  focusedCell?_eq_none : ∀ column place : Int, column = -1 ∨ column = r.width →
    t.focusedCell? (r.focusIn row column place) = none
  focusOf?_of_neg : ∀ place : Int, place < 0 →
    t.focusOf? ⟨row + firstLine, place⟩ firstLine = some ⟨row, -1, Edge.leading.offset⟩
  focusOf?_of_length_text_lt : ∀ place : Int, r.text.length < place →
    t.focusOf? ⟨row + firstLine, place⟩ firstLine =
      some ⟨row, r.width, Edge.trailing.offset⟩

lemma focusedCell?_focusIn (hr : t.row? row = some r) (column place : Int) :
    t.focusedCell? (r.focusIn row column place) = r.cell? column := by
  rw [focusedCell?, cell?, Row.focusIn, hr, Option.bind_some]

lemma findsSpans (hr : t.row? row = some r) (hcells : r.cells ≠ []) (firstLine : Int) :
    t.FindsSpans row r firstLine where
  pointOf?_eq k hk := by
    have hstop : ¬ (r.width : Int) ≤ k := by omega
    rw [pointOf?_eq hr, pointOf?_eq hr]
    refine ⟨rfl, ?_⟩
    rw [Row.placeOf, if_neg hstop]
  focusOf?_eq column place hleft hright hhas := by
    rw [focusOf?_add hr, Row.columnAt_eq hcells hleft hright hhas.1 hhas.2,
      Row.edgeAt_eq hcells hleft hright hhas]
    rfl
  focusedCell?_eq k c place hc := by
    rw [focusedCell?_focusIn hr, Row.cell?, Sequence.get?_natCast, hc]
  focusedCell?_eq_none column place hcolumn := by
    rw [focusedCell?_focusIn hr, Row.cell?, Sequence.get?]
    rcases hcolumn with rfl | rfl
    · rfl
    · rw [if_pos (Int.natCast_nonneg _), Int.toNat_natCast]
      exact List.getElem?_eq_none (Nat.le_refl _)
  focusOf?_of_neg place hplace := by
    have hmargin : place ≤ r.marginLeft.length := by omega
    rw [focusOf?_add hr, Row.columnAt_of_le_marginLeft hmargin,
      Row.edgeAt_of_le_marginLeft hmargin, if_pos (Int.le_of_lt hplace)]
  focusOf?_of_length_text_lt place hplace := by
    rw [focusOf?_add hr, Row.columnAt_of_length_text_lt hplace,
      Row.edgeAt_of_length_text_lt hplace]

/-- On a row without cells there is the left margin, and everything behind it. -/
lemma exists_focusOf?_of_noCells (hr : t.row? row = some r) (hcells : r.cells = [])
    (place firstLine : Int) :
    ∃ f, t.focusOf? ⟨row + firstLine, place⟩ firstLine = some f ∧ f.row = row ∧
      (place ≤ r.marginLeft.length → f.column = -1) ∧
      (r.marginLeft.length < place → f.column = 0 ∧ f.offset = Edge.trailing.offset) := by
  refine ⟨_, focusOf?_add hr place firstLine, rfl, Row.columnAt_of_le_marginLeft, fun hplace => ?_⟩
  have htext : r.text.length < place := by rwa [Row.text, if_pos hcells]
  rw [Row.columnAt_of_length_text_lt htext, Row.edgeAt_of_length_text_lt htext,
    Row.width_of_noCells hcells]
  exact ⟨rfl, rfl⟩

lemma focusOf?_of_row?_eq_none (hrow : row < 0 ∨ t.height ≤ row) (place firstLine : Int) :
    t.focusOf? ⟨row + firstLine, place⟩ firstLine = none := by
  have hnone : Sequence.inBounds (row + firstLine - firstLine) t.height = false := by
    simp only [Sequence.inBounds, Bool.and_eq_false_iff, decide_eq_false_iff_not]
    omega
  rw [← Option.not_isSome_iff_eq_none, isSome_focusOf?, hnone]
  exact Bool.false_ne_true

end Table

/-- The spans of a row with cells tile its text, and a point on the row has the focus on the span
that it is in.  On a row without cells, points behind the left margin are on the column behind it,
and besides the rows there are no foci. -/
theorem focusOf?_finds_span (t : Table) (firstLine : Int) :
    (∀ (row : Int) (r : Row), t.row? row = some r → r.cells ≠ [] →
      r.IsTiled ∧ t.FindsSpans row r firstLine) ∧
    (∀ (row : Int) (r : Row), t.row? row = some r → r.cells = [] → ∀ place : Int,
      ∃ f, t.focusOf? ⟨row + firstLine, place⟩ firstLine = some f ∧ f.row = row ∧
        (place ≤ r.marginLeft.length → f.column = -1) ∧
        (r.marginLeft.length < place → f.column = 0 ∧ f.offset = Edge.trailing.offset)) ∧
    ∀ row : Int, row < 0 ∨ t.height ≤ row → ∀ place : Int,
      t.focusOf? ⟨row + firstLine, place⟩ firstLine = none := by
  refine ⟨fun row r hr hcells => ?_, fun row r hr hcells place => ?_, fun row hrow place => ?_⟩
  · exact ⟨Row.isTiled hcells, Table.findsSpans hr hcells firstLine⟩
  · exact Table.exists_focusOf?_of_noCells hr hcells place firstLine
  · exact Table.focusOf?_of_row?_eq_none hrow place firstLine

/-- A row with an empty cell, whose pipes leave one place between them, a row that is a bare margin,
and a line below the table. -/
theorem focusOf?_finds_span_quoted :
    ∃ t r, t = Table.mk [r, ⟨"> ".toList, [], []⟩] ∧ r.text = "> | a ||  ".toList ∧
      (r.span 0).slice r.text = " a ".toList ∧
      (∃! column : Int, (-1 ≤ column ∧ column ≤ r.width) ∧ (r.span column).Has 7) ∧
      t.focusOf? ⟨5, 4⟩ 5 = some ⟨0, 0, 1⟩ ∧ t.focusedCell? ⟨0, 0, 1⟩ = some ⟨" a ".toList⟩ ∧
      t.focusOf? ⟨5, 7⟩ 5 = some ⟨0, 1, 0⟩ ∧ t.focusOf? ⟨5, 11⟩ 5 = some ⟨0, 2, 1⟩ ∧
      (∃ f, t.focusOf? ⟨6, 3⟩ 5 = some f ∧ f.column = 0) ∧ t.focusOf? ⟨7, 0⟩ 5 = none := by
  refine ⟨_, ⟨"> ".toList, [⟨" a ".toList⟩, ⟨[]⟩], "  ".toList⟩, rfl, rfl, ?_⟩
  obtain ⟨hcells, hnoCells, hbesides⟩ := focusOf?_finds_span
    ⟨[⟨"> ".toList, [⟨" a ".toList⟩, ⟨[]⟩], "  ".toList⟩, ⟨"> ".toList, [], []⟩]⟩ 5
  obtain ⟨htiled, hfinds⟩ := hcells 0 _ rfl (List.cons_ne_nil _ _)
  obtain ⟨f, hf, -, -, hcolumn⟩ := hnoCells 1 _ rfl rfl 3
  exact ⟨htiled.cell 0 _ rfl, htiled.column 7 (by decide) (by decide),
    hfinds.focusOf?_eq 0 4 (by decide) (by decide) (by decide), hfinds.focusedCell?_eq 0 _ 4 rfl,
    hfinds.focusOf?_eq 1 7 (by decide) (by decide) (by decide),
    hfinds.focusOf?_of_length_text_lt 11 (by decide), ⟨f, hf, (hcolumn (by decide)).1⟩,
    hbesides 2 (.inr (by decide)) 0⟩

end PipeTable
