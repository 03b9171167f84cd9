import PipeTable.Proofs.Cursor.Span
import PipeTable.Proofs.Quoting.Table

/-!
# Cursors on quoted tables

In a quoted row the left margin is longer and everything behind it is further right, by the length
of the quote (`Row.exists_spans_quoted`).  So a place behind the left margin, moved as far, is at
the same end of the same cell, and the end of a column other than the left margin moves as far
itself.  `focusOf?_quoted` and `pointOf?_quoted` say so of the points of a table.
-/

namespace PipeTable

/-- The span that is a number of characters further right. -/
def Span.shifted (n : Nat) (s : Span) : Span := ⟨s.start + n, s.stop + n⟩

/-- The point that is a number of characters further right. -/
def Point.shifted (n : Nat) (p : Point) : Point := { p with column := p.column + n }

lemma spansFrom_add (start n : Nat) (ts : List Text) :
    spansFrom (start + n) ts = (spansFrom start ts).map (Span.shifted n) := by
  induction ts generalizing start with
  | nil => rfl
  | cons t ts ih =>
    have hstop : start + n + t.length = start + t.length + n := by omega
    have hnext : start + n + t.length + 1 = start + t.length + 1 + n := by omega
    rw [spansFrom, spansFrom, hnext, ih, hstop, List.map_cons]
    rfl

namespace Row

/-! ## Spans -/

/-- The left margin starts the row and grows, all other spans move. -/
lemma exists_spans_quoted (m : Text) (r : Row) :
    ∃ rest, r.spans = ⟨0, r.marginLeft.length⟩ :: rest ∧
      (r.quoted m).spans =
        ⟨0, r.marginLeft.length + m.length⟩ :: rest.map (Span.shifted m.length) := by
  have hlength : (r.quoted m).marginLeft.length = r.marginLeft.length + m.length := by
    rw [marginLeft_quoted, List.length_append, Nat.add_comm]
  by_cases hcells : r.cells = []
  · have hquoted : (r.quoted m).cells = [] := hcells
    refine ⟨[⟨r.marginLeft.length, r.marginLeft.length⟩], ?_, ?_⟩
    · rw [spans, if_pos hcells]
    · rw [spans, if_pos hquoted, hlength]
      rfl
  · have hquoted : (r.quoted m).cells ≠ [] := hcells
    refine ⟨spansFrom (r.marginLeft.length + 1) (r.cells.map (·.raw) ++ [r.marginRight]), ?_, ?_⟩
    · rw [spans, if_neg hcells, pieces, List.cons_append, spansFrom, Nat.zero_add]
    · have hnext : r.marginLeft.length + m.length + 1 = r.marginLeft.length + 1 + m.length := by
        omega
      rw [spans, if_neg hquoted, pieces, List.cons_append, spansFrom, Nat.zero_add, hlength, hnext,
        spansFrom_add]
      rfl

section
variable {r : Row} {column place : Int}

lemma span_quoted (m : Text) (hcolumn : 0 ≤ column) :
    (r.quoted m).span column = (r.span column).shifted m.length := by
  obtain ⟨rest, hspans, hquoted⟩ := exists_spans_quoted m r
  have hlength : rest.length = r.width + 1 := by
    have h := length_spans r
    rw [hspans, List.length_cons] at h
    omega
  obtain ⟨k, hk⟩ : ∃ k : Nat, (min column r.width + 1).toNat = k + 1 :=
    ⟨(min column r.width).toNat, by omega⟩
  have hlt : k < rest.length := by omega
  rw [span, span, width_quoted, hk, hspans, hquoted, List.getD_cons_succ, List.getD_cons_succ,
    List.getD_eq_getElem?_getD, List.getD_eq_getElem?_getD, List.getElem?_map,
    List.getElem?_eq_getElem hlt]
  rfl

/-! ## Places behind the left margin -/

lemma columnAt_quoted (m : Text) (h : r.marginLeft.length < place) :
    (r.quoted m).columnAt (place + m.length) = r.columnAt place := by
  obtain ⟨rest, hspans, hquoted⟩ := exists_spans_quoted m r
  have hmargin : ¬ place ≤ r.marginLeft.length := by omega
  have hmargin' : ¬ place + m.length ≤ ((r.marginLeft.length + m.length : Nat) : Int) := by omega
  have hstop : ((fun s : Span => decide (place + m.length ≤ s.stop)) ∘ Span.shifted m.length) =
      fun s => decide (place ≤ s.stop) := by
    funext s
    simp [Span.shifted]
  rw [columnAt, columnAt, hspans, hquoted, List.findIdx_cons, List.findIdx_cons, List.findIdx_map,
    hstop, width_quoted]
  simp only [hmargin, hmargin']

lemma edgeAt_quoted (m : Text) (h : r.marginLeft.length < place) :
    (r.quoted m).edgeAt (place + m.length) = r.edgeAt place := by
  rw [edgeAt, edgeAt, columnAt_quoted m h, span_quoted m (columnAt_nonneg h)]
  simp [Span.shifted]

lemma placeOf_quoted (m : Text) (hcolumn : 0 ≤ column) (e : Edge) :
    (r.quoted m).placeOf column e = r.placeOf column e + m.length := by
  cases e with
  | leading => rw [placeOf, placeOf, span_quoted m hcolumn, Span.shifted]
  | trailing =>
    rw [placeOf, placeOf, span_quoted m hcolumn, width_quoted]
    simp only [Span.shifted]
    split <;> omega

end

end Row

/-! ## Points -/

namespace Table

variable {t : Table}

/-- A point behind the left margin of its row has the same focus if it is moved with the text. -/
lemma focusOf?_quoted (m : Text) {point : Point} {firstLine : Int}
    (h : ∀ r, t.row? (point.row - firstLine) = some r → r.marginLeft.length < point.column) :
    (t.quoted m).focusOf? (point.shifted m.length) firstLine = t.focusOf? point firstLine := by
  have hrow : (point.shifted m.length).row = point.row := rfl
  rw [focusOf?, focusOf?, hrow, row?_quoted, Option.map_map]
  cases hr : t.row? (point.row - firstLine) with
  | none => rfl
  | some r =>
    have hplace := h r hr
    simp only [Option.map_some, Function.comp_apply, Point.shifted, Row.columnAt_quoted m hplace,
      Row.edgeAt_quoted m hplace]

lemma column_nonneg_of_focusOf? {point : Point} {firstLine : Int} {f : Focus}
    (h : ∀ r, t.row? (point.row - firstLine) = some r → r.marginLeft.length < point.column)
    (hf : t.focusOf? point firstLine = some f) : 0 ≤ f.column := by
  obtain ⟨r, hr, rfl⟩ := Option.map_eq_some_iff.1 hf
  exact Row.columnAt_nonneg (h r hr)

/-- The point of a focus that is not on the left margin moves with the text. -/
lemma pointOf?_quoted (m : Text) {f : Focus} (hcolumn : 0 ≤ f.column) (firstLine : Int) :
    (t.quoted m).pointOf? f firstLine = (t.pointOf? f firstLine).map (Point.shifted m.length) := by
  rw [pointOf?, pointOf?, row?_quoted, Option.map_map, Option.map_map]
  refine congrArg (Option.map · _) (funext fun r => ?_)
  simp [Point.shifted, Row.placeOf_quoted m hcolumn]

end Table

end PipeTable
