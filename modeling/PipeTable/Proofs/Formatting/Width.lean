import Mathlib.Algebra.GroupWithZero.Nat
import PipeTable.Proofs.Filling
import PipeTable.Proofs.Formatting.Reshape

/-!
# Widths in the normal layout

A measure is regular if it takes a text character by character and counts one column for each of the
characters that formatting brings in: the space, the pipe, the dash and the colon.  Then the normal
layout does what it is for: a cell that is filled, and a bar of the delimiter row, takes two columns
more than its table column is wide (`Parts.width_of_formatNormal`), and the line of a row takes its
margins, a column for the first pipe, and for each cell its own width and a column for the pipe
behind it (`Measure.IsRegular.width_text`).

How wide a column of the table is depends on the contents only: on the widest of them and on the
least number of dashes (`Parts.columnWidth_eq_fullWidth`).
-/

namespace PipeTable

/-! ## Regular measures -/

/-- A measure that takes texts as they are written, one column for each of the characters that the
lines of a table are made up with. -/
structure Measure.IsRegular (m : Measure) : Prop where
  composes : m.composes = false
  space : m.charWidth ' ' = 1
  pipe : m.charWidth pipe = 1
  dash : m.charWidth '-' = 1
  colon : m.charWidth ':' = 1

namespace Measure

lemma isRegular_plain : plain.IsRegular := ⟨rfl, rfl, rfl, rfl, rfl⟩

namespace IsRegular

variable {m : Measure}

lemma width_append (h : m.IsRegular) (t u : Text) : m.width (t ++ u) = m.width t + m.width u :=
  Measure.width_append h.composes t u

lemma width_singleton (h : m.IsRegular) (c : Char) : m.width [c] = m.charWidth c := by
  simp [width, measured, h.composes, charsWidth]

lemma width_cons (h : m.IsRegular) (c : Char) (t : Text) :
    m.width (c :: t) = m.charWidth c + m.width t := by
  rw [← List.singleton_append, h.width_append, h.width_singleton]

lemma width_replicate (h : m.IsRegular) {c : Char} (hc : m.charWidth c = 1) (n : Nat) :
    m.width (List.replicate n c) = n := by
  have hmeasured : m.measured (List.replicate n c) = List.replicate n c := by
    simp [measured, h.composes]
  rw [width, hmeasured, charsWidth_replicate, hc, Nat.mul_one]

/-! ### Cells -/

/-- A text that fits into a width fills it, whatever the side. -/
lemma width_fill (h : m.IsRegular) {t : Text} {width : Nat} (ht : m.width t ≤ width)
    (side : Side) : m.width (m.fill t width side) = width := by
  have hspace : m.width [' '] = 1 := by rw [width_space, h.space]
  have hfill := width_fill_eq hspace t width side
  omega

lemma width_padded (h : m.IsRegular) (t : Text) : m.width (padded t) = m.width t + 2 := by
  rw [padded, h.width_cons, h.width_append, h.width_singleton, h.space]
  omega

lemma width_delimiterText (h : m.IsRegular) (a : Alignment) (dashes : Int) :
    m.width (delimiterText a dashes) = dashes.toNat + 2 := by
  have hend (colon : Bool) : m.charWidth (colonOrSpace colon) = 1 := by
    cases colon with
    | false => exact h.space
    | true => exact h.colon
  rw [delimiterText, h.width_cons, h.width_append, h.width_singleton, h.width_replicate h.dash,
    hend, hend]
  omega

/-! ### Lines -/

lemma width_intercalate (h : m.IsRegular) (t : Text) (ts : List Text) :
    m.width (List.intercalate [PipeTable.pipe] (t :: ts)) =
      m.width t + (ts.map fun u => m.width u + 1).sum := by
  induction ts generalizing t with
  | nil => simp
  | cons u ts ih =>
    rw [List.intercalate_cons_cons, h.width_append, h.width_append, h.width_singleton, h.pipe, ih,
      List.map_cons, List.sum_cons]
    omega

/-- The line of a row with cells: each cell has a pipe behind it, and the first one also in front.
-/
lemma width_text (h : m.IsRegular) {r : Row} (hcells : r.cells ≠ []) :
    m.width r.text = m.width r.marginLeft + 1 + (r.cells.map fun c => m.width c.raw + 1).sum +
      m.width r.marginRight := by
  rw [Row.text, if_neg hcells, Row.pieces, List.cons_append, h.width_intercalate, List.map_append,
    List.map_map, List.sum_append, List.map_singleton, List.sum_singleton]
  simp only [Function.comp_def]
  omega

end IsRegular

end Measure

/-! ## Widths of columns -/

/-- A maximum that starts from some value is the greater one of that value and the maximum. -/
lemma foldr_max_eq {α : Type} (f : α → Nat) (least : Nat) (l : List α) :
    l.foldr (fun a widest => max (f a) widest) least =
      max least (l.foldr (fun a widest => max (f a) widest) 0) := by
  induction l with
  | nil => exact (Nat.max_eq_left (Nat.zero_le least)).symm
  | cons a l ih =>
    rw [List.foldr_cons, List.foldr_cons, ih]
    omega

lemma le_foldr_max {α : Type} (f : α → Nat) {l : List α} {a : α} (h : a ∈ l) :
    f a ≤ l.foldr (fun a widest => max (f a) widest) 0 := by
  induction l with
  | nil => exact absurd h List.not_mem_nil
  | cons b l ih =>
    rw [List.foldr_cons]
    rcases List.mem_cons.1 h with rfl | h
    · exact Nat.le_max_left _ _
    · exact Nat.le_trans (ih h) (Nat.le_max_right _ _)

namespace Table

/-- The rows that hold content: all but the delimiter row. -/
def contentRows (t : Table) : List Row :=
  if t.delimiterRow?.isSome then t.rows.eraseIdx 1 else t.rows

/-- The width of the widest content of a column, zero where no row has the column. -/
def widest (m : Measure) (t : Table) (column : Nat) : Nat :=
  (t.contentRows.filterMap fun r => r.contents[column]?).foldr
    (fun content widest => max (m.width content) widest) 0

/-- The width of a column that is wide enough for its contents and for the least number of
dashes. -/
def fullWidth (style : Style) (t : Table) (column : Nat) : Nat :=
  max style.minDashes.toNat (t.widest style.measure column)

variable {style : Style} {t : Table} {p q : Parts}

lemma contentRows_of_parts? (h : t.parts? = some p) : t.contentRows = p.contentRows := by
  have hdelimiter := delimiter?_of_parts? h
  rw [contentRows, ← hdelimiter, ← toTable_of_parts? h, Parts.toTable, Parts.contentRows]
  cases p.delimiter? <;> rfl

namespace Parts

/-- A column that the delimiter row has is as wide as its contents and its dashes need it. -/
lemma columnWidth_eq_fullWidth {d : Row} (h : t.parts? = some p) (hd : p.delimiter? = some d)
    {column : Nat} (hcolumn : column < d.width) :
    p.columnWidth style column = t.fullWidth style column := by
  rw [columnWidth_eq, foldr_max_eq, leastWidth, hd, Option.map_some, Option.getD_some,
    if_pos hcolumn, fullWidth, widest, contentRows_of_parts? h]
  rfl

lemma width_content_le_columnWidth (style : Style) {r : Row} (hr : r ∈ p.contentRows)
    {column : Nat} {c : Cell} (hc : r.cells[column]? = some c) :
    style.measure.width c.content ≤ p.columnWidth style column := by
  have hcontent : c.content ∈ p.columnContents column := by
    rw [columnContents, List.mem_filterMap]
    exact ⟨r, hr, by rw [Row.contents, List.getElem?_map, hc]; rfl⟩
  rw [columnWidth_eq, foldr_max_eq]
  exact Nat.le_trans (le_foldr_max style.measure.width hcontent) (Nat.le_max_right _ _)

lemma width_of_getElem?_columns {fallback : Alignment} {j : Nat} {column : Column}
    (h : (p.columns style fallback)[j]? = some column) :
    column.width = p.columnWidth style j := by
  obtain ⟨hlt, hget⟩ := List.getElem?_eq_some_iff.1 h
  rw [← hget]
  simp [columns]

end Parts

end Table

/-! ## Widths of formatted cells -/

namespace Row

variable {style : Style} {r : Row} {columns : List Column} {j : Nat} {c : Cell}

/-- A filled cell takes the width of its column and two spaces. -/
lemma width_of_fillColumns (hm : style.measure.IsRegular) {override : Option Alignment}
    {cells : List Cell} (h : r.fillColumns style columns override = .ok cells)
    (hfit : ∀ (j : Nat) (c : Cell) (column : Column), r.cells[j]? = some c →
      columns[j]? = some column → style.measure.width c.content ≤ column.width)
    (hc : cells[j]? = some c) :
    ∃ column, columns[j]? = some column ∧ style.measure.width c.raw = column.width + 2 := by
  obtain ⟨⟨old, column⟩, hpair, hfill⟩ := exists_getElem?_of_forall₂ (mapM_eq_ok_iff.1 h).flip hc
  obtain ⟨hold, hcolumn⟩ := List.getElem?_zip_eq_some.1 hpair
  obtain ⟨text, htext, hcell⟩ := bind_eq_ok_iff.1 hfill
  obtain ⟨side, rfl⟩ := exists_fill_of_align htext
  cases hcell
  refine ⟨column, hcolumn, ?_⟩
  rw [hm.width_padded, hm.width_fill (hfit j old column hold hcolumn)]

/-- A bar takes the width of its column and one character at either end. -/
lemma width_of_fillBars (hm : style.measure.IsRegular) (hc : (r.fillBars columns)[j]? = some c) :
    ∃ column, columns[j]? = some column ∧ style.measure.width c.raw = column.width + 2 := by
  rw [fillBars, List.getElem?_map] at hc
  obtain ⟨⟨a, column⟩, hpair, rfl⟩ := Option.map_eq_some_iff.1 hc
  obtain ⟨-, hcolumn⟩ := List.getElem?_zip_eq_some.1 hpair
  refine ⟨column, hcolumn, ?_⟩
  rw [hm.width_delimiterText, Int.toNat_natCast]

end Row

/-- In the normal layout every cell of a column takes two columns more than the column is wide. -/
lemma Table.Parts.width_of_formatNormal {style : Style} {p q : Table.Parts}
    (hm : style.measure.IsRegular) (h : p.formatNormal style = .ok q) {s : Row}
    (hs : s ∈ q.toTable.rows) {j : Nat} {c : Cell} (hc : s.cells[j]? = some c) :
    style.measure.width c.raw = p.columnWidth style j + 2 := by
  obtain ⟨fallback, override, header, body, -, -, hheader, hbody, rfl⟩ :=
    Parts.exists_of_formatNormal h
  have hfit (r : Row) (hr : r ∈ p.contentRows) (j : Nat) (c : Cell) (column : Column)
      (hc : r.cells[j]? = some c) (hcolumn : (p.columns style fallback)[j]? = some column) :
      style.measure.width c.content ≤ column.width := by
    rw [width_of_getElem?_columns hcolumn]
    exact width_content_le_columnWidth style hr hc
  suffices hwidth : ∃ column, (p.columns style fallback)[j]? = some column ∧
      style.measure.width c.raw = column.width + 2 by
    obtain ⟨column, hcolumn, hc⟩ := hwidth
    rw [hc, width_of_getElem?_columns hcolumn]
  rcases mem_toTable.1 hs with rfl | hd | hb
  · exact Row.width_of_fillColumns hm hheader (hfit p.header List.mem_cons_self) hc
  · obtain ⟨d, -, rfl⟩ := Option.map_eq_some_iff.1 hd
    exact Row.width_of_fillBars hm hc
  · obtain ⟨cells, hcells, rfl⟩ := List.mem_map.1 hb
    obtain ⟨r, hr, hrow⟩ := exists_mem_of_forall₂ hbody hcells
    exact Row.width_of_fillColumns hm hrow (hfit r (List.mem_cons_of_mem _ hr)) hc

end PipeTable
