import PipeTable.Proofs.Cursor.Tiling
import PipeTable.Proofs.Padding

/-!
# Selections

The selection of a cell starts behind the padding of the cell and is as long as its content.  The
span of the cell is cut out of the row's text as its raw text (`Row.slice_span_cell`), and the
content is cut out of that behind its padding (`Cell.exists_padding`); so what is selected is the
content, wherever in the row the cell stands (`Span.slice_of_slice_eq_append`).

The main statement, `selection?_covers_content`, adds which foci have a selection, and that it does
not leave the cell.
-/

namespace PipeTable

/-! ## Parts of a span -/

/-- What a span covers is cut out further by the lengths of its parts. -/
lemma Span.slice_of_slice_eq_append {s : Span} {t a b c : Text} (h : s.slice t = a ++ b ++ c) :
    (⟨s.start + a.length, s.start + a.length + b.length⟩ : Span).slice t = b := by
  have hrest : t.drop s.start = a ++ (b ++ (c ++ (t.drop s.start).drop (s.stop - s.start))) := by
    rw [← List.append_assoc, ← List.append_assoc, ← h, slice, List.take_append_drop]
  have hlength : s.start + a.length + b.length - (s.start + a.length) = b.length := by omega
  dsimp only [slice]
  rw [hlength, ← List.drop_drop, hrest, List.drop_left, List.take_left]

/-- What a selection on one line covers of it. -/
def Selection.slice (s : Selection) (line : Text) : Text :=
  (Span.mk s.start.column.toNat s.stop.column.toNat).slice line

/-- The selection of the content of a cell in a column of a row that stands on a line. -/
def Row.selectionOf (r : Row) (line column : Int) (c : Cell) : Selection :=
  let start := (r.span column).start + c.paddingLeft
  ⟨⟨line, start⟩, ⟨line, start + c.content.length⟩⟩

/-- A cell is as long as its span, which covers it. -/
lemma Row.span_of_cell? {r : Row} {column : Int} {c : Cell} (h : r.cell? column = some c) :
    column < r.width ∧ (r.span column).slice r.text = c.raw ∧
      (r.span column).stop = (r.span column).start + c.raw.length := by
  obtain ⟨hnonneg, hget⟩ := Sequence.get?_eq_some_iff.1 h
  obtain ⟨k, rfl⟩ := Int.eq_ofNat_of_zero_le hnonneg
  rw [Int.toNat_natCast] at hget
  have hlt : k < r.width := (List.getElem?_eq_some_iff.1 hget).1
  have hcells : r.cells ≠ [] := List.ne_nil_of_mem (List.mem_of_getElem? hget)
  have hplace : (min (k : Int) r.width + 1).toNat = k + 1 := by omega
  refine ⟨Int.ofNat_lt.2 hlt, slice_span_cell hcells hget, span_stop_eq hcells ?_⟩
  rw [hplace, getElem?_pieces hget]

/-! ## Selections of foci -/

/-- The selection covers the content of the cell that a focus is on, between the two ends of it. -/
structure Selection.Covers (s : Selection) (t : Table) (f : Focus) (firstLine : Int) (r : Row)
    (c : Cell) : Prop where
  row?_eq : t.row? f.row = some r
  cell?_eq : r.cell? f.column = some c
  start_row : s.start.row = f.row + firstLine
  stop_row : s.stop.row = f.row + firstLine
  slice_eq : s.slice r.text = c.content
  between : ∃ front back : Point,
    t.pointOf? (f.withOffset Edge.leading.offset) firstLine = some front ∧
    t.pointOf? (f.withOffset Edge.trailing.offset) firstLine = some back ∧
    0 ≤ front.column ∧ front.column ≤ s.start.column ∧ s.start.column ≤ s.stop.column ∧
    s.stop.column ≤ back.column

namespace Table

variable {t : Table} {f : Focus} {firstLine : Int} {r : Row} {c : Cell} {s : Selection}

lemma focusedCell?_eq_some_iff :
    t.focusedCell? f = some c ↔ ∃ r, t.row? f.row = some r ∧ r.cell? f.column = some c :=
  Option.bind_eq_some_iff

lemma selection?_eq_some_iff :
    t.selection? f firstLine = some s ↔
      ∃ r c, t.row? f.row = some r ∧ r.cell? f.column = some c ∧ c.content ≠ [] ∧
        s = r.selectionOf (f.row + firstLine) f.column c := by
  unfold selection?
  constructor
  · intro h
    cases hr : t.row? f.row with
    | none => simp [hr] at h
    | some r =>
      cases hc : r.cell? f.column with
      | none => simp [hr, hc] at h
      | some c =>
        by_cases hcontent : c.content = []
        · simp [hr, hc, hcontent] at h
        · simp only [hr, hc, hcontent, if_false, Option.some.injEq] at h
          exact ⟨r, c, rfl, hc, hcontent, h.symm⟩
  · rintro ⟨r, c, hr, hc, hcontent, rfl⟩
    simp only [hr, hc, hcontent, if_false]
    rfl

lemma covers_selectionOf (hr : t.row? f.row = some r) (hc : r.cell? f.column = some c)
    (hcontent : c.content ≠ []) :
    (r.selectionOf (f.row + firstLine) f.column c).Covers t f firstLine r c := by
  obtain ⟨hlt, hslice, hstop⟩ := Row.span_of_cell? hc
  obtain ⟨l, b, -, -, hleft, -, hraw⟩ := Cell.exists_padding hcontent
  refine ⟨hr, hc, rfl, rfl, ?_, ?_⟩
  · rw [hraw] at hslice
    have hcut := Span.slice_of_slice_eq_append hslice
    rw [hleft] at hcut
    exact hcut
  · have hbehind : ¬ (r.width : Int) ≤ f.column := by omega
    have hlength := congrArg List.length hraw
    rw [List.length_append, List.length_append, hleft] at hlength
    refine ⟨_, _, pointOf?_eq hr f.column .leading firstLine,
      pointOf?_eq hr f.column .trailing firstLine, Int.natCast_nonneg _, ?_, ?_, ?_⟩
    · dsimp only [Row.placeOf, Row.selectionOf]
      omega
    · dsimp only [Row.selectionOf]
      omega
    · rw [Row.placeOf, if_neg hbehind]
      dsimp only [Row.selectionOf]
      omega

end Table

/-- Exactly the foci on cells that are not blank have a selection, the same at either end.  It lies
on the line of the focus and covers the content of the cell, between the points of its two ends. -/
theorem selection?_covers_content (t : Table) (f : Focus) (firstLine : Int) :
    ((t.selection? f firstLine).isSome ↔ ∃ c, t.focusedCell? f = some c ∧ ¬ c.raw.isBlank) ∧
    (∀ offset, t.selection? (f.withOffset offset) firstLine = t.selection? f firstLine) ∧
    ∀ s, t.selection? f firstLine = some s → ∃ r c, s.Covers t f firstLine r c := by
  refine ⟨?_, fun offset => rfl, fun s hs => ?_⟩
  · rw [Option.isSome_iff_exists]
    constructor
    · rintro ⟨s, hs⟩
      obtain ⟨r, c, hr, hc, hcontent, -⟩ := Table.selection?_eq_some_iff.1 hs
      exact ⟨c, Table.focusedCell?_eq_some_iff.2 ⟨r, hr, hc⟩, mt Text.trim_eq_nil_iff.2 hcontent⟩
    · rintro ⟨c, hc, hblank⟩
      obtain ⟨r, hr, hc⟩ := Table.focusedCell?_eq_some_iff.1 hc
      exact ⟨_, Table.selection?_eq_some_iff.2
        ⟨r, c, hr, hc, mt Text.trim_eq_nil_iff.1 hblank, rfl⟩⟩
  · obtain ⟨r, c, hr, hc, hcontent, rfl⟩ := Table.selection?_eq_some_iff.1 hs
    exact ⟨r, c, Table.covers_selectionOf hr hc hcontent⟩

/-- The content of the second cell, behind a wide blank, is selected from either end of the cell. -/
theorem selection?_covers_content_second :
    ∃ (t : Table) (s : Selection) (r : Row) (c : Cell),
      t.selection? ⟨1, 1, 5⟩ 3 = some s ∧ s.Covers t ⟨1, 1, 5⟩ 3 r c ∧
      c.content = "b c".toList ∧ s = ⟨⟨4, 8⟩, ⟨4, 11⟩⟩ := by
  let r : Row := ⟨"> ".toList, [⟨" a".toList⟩, ⟨"\u3000\tb c ".toList⟩], []⟩
  let t : Table := ⟨[⟨[], [], []⟩, r]⟩
  obtain ⟨-, -, hcovers⟩ := selection?_covers_content t ⟨1, 1, 5⟩ 3
  have hs : t.selection? ⟨1, 1, 5⟩ 3 = some ⟨⟨4, 8⟩, ⟨4, 11⟩⟩ := by decide
  obtain ⟨r', c, hc⟩ := hcovers _ hs
  obtain rfl : r = r' := Option.some.inj hc.row?_eq
  obtain rfl : (⟨"\u3000\tb c ".toList⟩ : Cell) = c := Option.some.inj hc.cell?_eq
  exact ⟨t, _, r, _, hs, hc, by decide, rfl⟩

end PipeTable
