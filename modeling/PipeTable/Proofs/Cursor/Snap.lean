import PipeTable.Proofs.Cursor.Return

/-!
# Snapping

A point snaps to the point of its own focus: to an end of the span that it is in.  On a row with
cells, snapping again does nothing, because the focus that comes back from there has the same place
(`Row.placeOf_edgeBack_self`).  A row without cells has only the two ends of its text to snap to
(`Row.snap_of_noCells`).

The main statement, `snap?_idempotent_monotone`, adds that snapping stays in the text and in every
span that the point is in, and that it keeps the order of points: between spans because they follow
each other (`Row.stop_span_le_start`), and within one because all of it but its start snaps to one
place.
-/

namespace PipeTable

/-! ## Snapping on a row -/

namespace Row

variable {r : Row} {place place' column column' : Int}

/-- The place of the end that a place counts as. -/
def snap (r : Row) (place : Int) : Nat := r.placeOf (r.columnAt place) (r.edgeAt place)

lemma snap_le_length_text (r : Row) (place : Int) : r.snap place ≤ r.text.length :=
  placeOf_le_length_text r _ _

/-- The margins of a row without cells meet at the end of its text. -/
lemma span_of_noCells (hcells : r.cells = []) (column : Int) :
    r.span column = if column < 0 then ⟨0, r.marginLeft.length⟩
      else ⟨r.marginLeft.length, r.marginLeft.length⟩ := by
  have hwidth := width_of_noCells hcells
  rw [span, spans, if_pos hcells]
  split
  · next hneg =>
    have hplace : (min column r.width + 1).toNat = 0 := by omega
    rw [hplace, List.getD_cons_zero]
  · next hneg =>
    have hplace : (min column r.width + 1).toNat = 1 := by omega
    rw [hplace, List.getD_cons_succ, List.getD_cons_zero]

/-- The only other place than the end of the text is its start. -/
lemma placeOf_of_noCells (hcells : r.cells = []) (column : Int) (e : Edge) :
    r.placeOf column e = if column < 0 ∧ e = .leading then 0 else r.marginLeft.length := by
  have hwidth := width_of_noCells hcells
  have hspan := span_of_noCells hcells column
  cases e with
  | leading =>
    rw [placeOf, hspan]
    by_cases hneg : column < 0 <;> simp [hneg]
  | trailing =>
    rw [placeOf, hspan]
    by_cases hneg : column < 0
    · simp [hneg, show ¬ (r.width : Int) ≤ column by omega]
    · simp [hneg]

/-- All but the start of the text snaps to its end. -/
lemma snap_of_noCells (hcells : r.cells = []) (place : Int) :
    r.snap place = if place ≤ 0 then 0 else r.marginLeft.length := by
  rw [snap, placeOf_of_noCells hcells]
  by_cases hmargin : place ≤ r.marginLeft.length
  · rw [columnAt_of_le_marginLeft hmargin, edgeAt_of_le_marginLeft hmargin]
    by_cases hpos : place ≤ 0 <;> simp [hpos]
  · have htext : r.text.length < place := by
      rw [text, if_pos hcells]
      exact Int.not_le.1 hmargin
    have hpos : ¬ place ≤ 0 := by omega
    rw [edgeAt_of_length_text_lt htext]
    simp [hpos]

lemma snap_snap (r : Row) (place : Int) : r.snap (r.snap place) = r.snap place := by
  by_cases hcells : r.cells = []
  · rw [snap_of_noCells hcells, snap_of_noCells hcells]
    split
    · rfl
    · split <;> omega
  · have hleft := r.neg_one_le_columnAt place
    have hright := r.columnAt_le_width place
    rw [snap, snap, columnAt_placeOf hcells hleft hright, edgeAt_placeOf hcells hleft hright,
      ← edgeBack, placeOf_edgeBack_self]

/-- A place snaps to a place of every span that it is in. -/
lemma has_snap (hleft : -1 ≤ column) (hright : column ≤ r.width)
    (hhas : (r.span column).Has place) : (r.span column).Has (r.snap place) := by
  by_cases hcells : r.cells = []
  · -- the span in which a place is looked up need not be the only one that it is in
    rw [span_of_noCells hcells, Span.Has] at hhas ⊢
    rw [snap_of_noCells hcells]
    by_cases hneg : column < 0
    · simp only [hneg, if_true] at hhas ⊢
      split <;> omega
    · simp only [hneg, if_false] at hhas ⊢
      split <;> omega
  · obtain ⟨hstart, hstop⟩ := placeOf_mem_span r column (r.edgeAt place)
    rw [snap, columnAt_eq hcells hleft hright hhas.1 hhas.2]
    exact ⟨Int.ofNat_le.2 hstart, Int.ofNat_le.2 hstop⟩

/-- Every place of the text is in a span, whether the row has cells or not. -/
lemma exists_span_has (r : Row) (hpos : 0 ≤ place) (hplace : place ≤ r.text.length) :
    ∃ column : Int, (-1 ≤ column ∧ column ≤ r.width) ∧ (r.span column).Has place := by
  by_cases hcells : r.cells = []
  · rw [text, if_pos hcells] at hplace
    refine ⟨-1, ⟨Int.le_refl _, by omega⟩, ?_⟩
    rw [span_of_noCells hcells]
    exact ⟨hpos, hplace⟩
  · exact exists_column hcells hpos hplace

/-! ## Order -/

lemma columnAt_mono (h : place ≤ place') : r.columnAt place ≤ r.columnAt place' := by
  have hle : (r.spans.findIdx fun s => place ≤ s.stop) ≤
      r.spans.findIdx fun s => place' ≤ s.stop := by
    refine List.findIdx_le_findIdx fun s _ hs => ?_
    rw [decide_eq_true_iff] at hs ⊢
    omega
  unfold columnAt
  omega

/-- Spans follow each other. -/
lemma stop_span_le_start (hleft : -1 ≤ column) (hlt : column < column')
    (hright : column' ≤ r.width) : (r.span column).stop ≤ (r.span column').start := by
  by_cases hcells : r.cells = []
  · have hwidth := width_of_noCells hcells
    have hfirst : column < 0 := by omega
    have hlast : ¬ column' < 0 := by omega
    have hstop : (r.span column).stop = r.marginLeft.length := by
      rw [span_of_noCells hcells, if_pos hfirst]
    have hstart : (r.span column').start = r.marginLeft.length := by
      rw [span_of_noCells hcells, if_neg hlast]
    exact Nat.le_of_eq (hstop.trans hstart.symm)
  · have hk := lt_length_spans r column
    have hk' := lt_length_spans r column'
    rw [span_eq_getElem r column hk, span_eq_getElem r column' hk']
    exact Nat.le_of_lt (List.pairwise_iff_getElem.1 (pairwise_spans hcells) _ _ hk hk' (by omega))

lemma snap_mono (h : place ≤ place') : r.snap place ≤ r.snap place' := by
  obtain ⟨hstart, hstop⟩ := placeOf_mem_span r (r.columnAt place) (r.edgeAt place)
  obtain ⟨hstart', -⟩ := placeOf_mem_span r (r.columnAt place') (r.edgeAt place')
  rcases Int.lt_or_eq_of_le (columnAt_mono (r := r) h) with hlt | heq
  · calc r.snap place
      _ ≤ (r.span (r.columnAt place)).stop := hstop
      _ ≤ (r.span (r.columnAt place')).start :=
        stop_span_le_start (r.neg_one_le_columnAt place) hlt (r.columnAt_le_width place')
      _ ≤ r.snap place' := hstart'
  · -- in one span, the first place is at its start or neither is
    by_cases hfirst : place ≤ (r.span (r.columnAt place)).start
    · have hsnap : r.snap place = (r.span (r.columnAt place)).start := by
        rw [snap, edgeAt, if_pos hfirst, placeOf]
      rw [hsnap, heq]
      exact hstart'
    · have hedge : r.edgeAt place' = r.edgeAt place := by
        rw [edgeAt, edgeAt, ← heq, if_neg hfirst, if_neg (by omega)]
      exact Nat.le_of_eq (by rw [snap, snap, hedge, heq])

end Row

/-! ## Snapping on a table -/

namespace Table

variable {t : Table} {p : Point} {r : Row} {firstLine : Int}

/-- The point of the focus of a point. -/
def snap? (t : Table) (p : Point) (firstLine : Int) : Option Point :=
  (t.focusOf? p firstLine).bind (t.pointOf? · firstLine)

lemma snap?_eq (hr : t.row? (p.row - firstLine) = some r) :
    t.snap? p firstLine = some ⟨p.row, r.snap p.column⟩ := by
  have hrow : p.row - firstLine + firstLine = p.row := by omega
  rw [snap?, focusOf?, hr, Option.map_some, Option.bind_some, pointOf?_eq hr, hrow, Row.snap]

/-- Only points on the rows of a table snap. -/
lemma exists_row?_of_snap? {q : Point} (h : t.snap? p firstLine = some q) :
    ∃ r, t.row? (p.row - firstLine) = some r := by
  obtain ⟨f, hf, -⟩ := Option.bind_eq_some_iff.1 h
  obtain ⟨r, hr, -⟩ := focusOf?_eq_some_iff.1 hf
  exact ⟨r, hr⟩

/-- The second point is where the first one snaps to on a row. -/
structure SnapsTo (t : Table) (r : Row) (firstLine : Int) (p q : Point) : Prop where
  snap?_eq : t.snap? p firstLine = some q
  row_eq : q.row = p.row
  column_nonneg : 0 ≤ q.column
  column_le : q.column ≤ r.text.length
  /-- It has snapped already. -/
  snap?_self : t.snap? q firstLine = some q
  /-- A point in the text is in a span. -/
  exists_has : 0 ≤ p.column → p.column ≤ r.text.length →
    ∃ column : Int, (-1 ≤ column ∧ column ≤ r.width) ∧ (r.span column).Has p.column
  /-- It is in the spans that the point is in. -/
  has_of_has : ∀ column : Int, -1 ≤ column → column ≤ r.width →
    (r.span column).Has p.column → (r.span column).Has q.column

lemma snapsTo (hr : t.row? (p.row - firstLine) = some r) :
    t.SnapsTo r firstLine p ⟨p.row, r.snap p.column⟩ where
  snap?_eq := snap?_eq hr
  row_eq := rfl
  column_nonneg := Int.natCast_nonneg _
  column_le := Int.ofNat_le.2 (r.snap_le_length_text p.column)
  snap?_self := by
    have hq : t.row? ((⟨p.row, r.snap p.column⟩ : Point).row - firstLine) = some r := hr
    rw [Table.snap?_eq hq, Row.snap_snap]
  exists_has := r.exists_span_has
  has_of_has _ := Row.has_snap

end Table

/-- Every point on a row of a table snaps to a point of that row, in its text and in every span that
it is in, which snaps to itself; and of two points of one row the first one stays first. -/
theorem snap?_idempotent_monotone (t : Table) (firstLine : Int) :
    (∀ (p : Point) (r : Row), t.row? (p.row - firstLine) = some r →
      ∃ q, t.SnapsTo r firstLine p q) ∧
    ∀ p p' q q' : Point, p.row = p'.row → p.column ≤ p'.column →
      t.snap? p firstLine = some q → t.snap? p' firstLine = some q' → q.column ≤ q'.column := by
  refine ⟨fun p r hr => ⟨_, Table.snapsTo hr⟩, ?_⟩
  intro p p' q q' hrow hle hq hq'
  obtain ⟨r, hr⟩ := Table.exists_row?_of_snap? hq
  have hr' : t.row? (p'.row - firstLine) = some r := by rwa [← hrow]
  rw [Table.snap?_eq hr, Option.some.injEq] at hq
  rw [Table.snap?_eq hr', Option.some.injEq] at hq'
  subst hq hq'
  exact Int.ofNat_le.2 (Row.snap_mono hle)

/-- The end of the right margin snaps to one past the last pipe, behind the end of the cell in front
of it.  What is behind a row without cells snaps to the end of its text. -/
theorem snap?_idempotent_monotone_margin :
    ∃ t r, t = Table.mk [r, ⟨"> ".toList, [], []⟩] ∧ r.text = "|a|   ".toList ∧
      t.SnapsTo r 4 ⟨4, 6⟩ ⟨4, 4⟩ ∧ t.SnapsTo ⟨"> ".toList, [], []⟩ 4 ⟨5, 7⟩ ⟨5, 2⟩ ∧
      t.snap? ⟨4, 2⟩ 4 = some ⟨4, 2⟩ ∧ (2 : Int) ≤ 4 := by
  obtain ⟨hsnaps, hmono⟩ := snap?_idempotent_monotone
    ⟨[⟨[], [⟨"a".toList⟩], "   ".toList⟩, ⟨"> ".toList, [], []⟩]⟩ 4
  obtain ⟨q, hq⟩ := hsnaps ⟨4, 6⟩ _ rfl
  obtain ⟨q', hq'⟩ := hsnaps ⟨5, 7⟩ _ rfl
  have hmargin : some ⟨4, 4⟩ = some q := hq.snap?_eq
  have hbehind : some ⟨5, 2⟩ = some q' := hq'.snap?_eq
  cases hmargin
  cases hbehind
  have hle := hmono ⟨4, 2⟩ ⟨4, 6⟩ ⟨4, 2⟩ ⟨4, 4⟩ rfl (by decide) (by decide) hq.snap?_eq
  exact ⟨_, _, rfl, by decide, hq, hq', by decide, hle⟩

end PipeTable
