import Mathlib.Data.List.Basic
import PipeTable.Cursor.Span

/-!
# Places in a row

The spans of a row with cells stand one behind the other with a pipe between any two, so a place
belongs to one span at most: a place between the ends of the span of a column is in that column
(`columnAt_eq`).  From this, the place of a column's end is read as that end of that column again
(`columnAt_placeOf`, `edgeAt_placeOf`), unless the two ends are one place, which counts as the
leading one.
-/

namespace PipeTable

/-! ## Spans from a place on -/

lemma mem_spansFrom {start : Nat} {ts : List Text} {s : Span} (h : s ∈ spansFrom start ts) :
    start ≤ s.start ∧ s.start ≤ s.stop ∧
      s.stop ≤ start + (List.intercalate [pipe] ts).length := by
  induction ts generalizing start with
  | nil => exact absurd h List.not_mem_nil
  | cons t ts ih =>
    have hlen : t.length ≤ (List.intercalate [pipe] (t :: ts)).length := by
      cases ts <;> simp
    rcases List.mem_cons.1 h with rfl | h
    · refine ⟨Nat.le_refl _, Nat.le_add_right _ _, ?_⟩
      exact Nat.add_le_add_left hlen start
    · obtain ⟨hstart, hle, hstop⟩ := ih h
      refine ⟨by omega, hle, ?_⟩
      cases ts with
      | nil => exact absurd h List.not_mem_nil
      | cons u ts =>
        rw [List.intercalate_cons_cons, List.length_append, List.length_append]
        simp only [List.length_singleton]
        omega

/-- Between any two spans there is a pipe. -/
lemma pairwise_spansFrom (start : Nat) (ts : List Text) :
    (spansFrom start ts).Pairwise fun s s' => s.stop < s'.start := by
  induction ts generalizing start with
  | nil => exact .nil
  | cons t ts ih =>
    refine .cons (fun s hs => ?_) (ih _)
    exact (mem_spansFrom hs).1

/-- A span is as long as its text. -/
lemma getElem?_spansFrom (start : Nat) {ts : List Text} {k : Nat} {t : Text}
    (h : ts[k]? = some t) :
    ∃ s, (spansFrom start ts)[k]? = some s ∧ s.stop = s.start + t.length := by
  induction ts generalizing start k with
  | nil => simp at h
  | cons u ts ih =>
    cases k with
    | zero =>
      obtain rfl : u = t := by simpa using h
      exact ⟨_, rfl, rfl⟩
    | succ k => exact ih (start + u.length + 1) (by simpa using h)

/-- Behind some texts, the spans of others start at a place of their own, and what all of them make
up ends where the others do from there. -/
lemma exists_spansFrom_append (start : Nat) (ts : List Text) :
    ∃ next, ∀ us : List Text,
      spansFrom start (ts ++ us) = spansFrom start ts ++ spansFrom next us ∧
      (us ≠ [] → start + (List.intercalate [pipe] (ts ++ us)).length =
        next + (List.intercalate [pipe] us).length) := by
  induction ts generalizing start with
  | nil => exact ⟨start, fun us => ⟨rfl, fun _ => rfl⟩⟩
  | cons t ts ih =>
    obtain ⟨next, hnext⟩ := ih (start + t.length + 1)
    refine ⟨next, fun us => ⟨?_, fun hus => ?_⟩⟩
    · rw [List.cons_append, spansFrom, spansFrom, (hnext us).1, List.cons_append]
    · rw [← (hnext us).2 hus, List.cons_append]
      cases hrest : ts ++ us with
      | nil => exact absurd (List.append_eq_nil_iff.1 hrest).2 hus
      | cons v vs =>
        rw [List.intercalate_cons_cons, List.length_append, List.length_append]
        simp only [List.length_singleton]
        omega

namespace Row

/-! ## The spans of a row -/

lemma getElem?_pieces {r : Row} {k : Nat} {c : Cell} (h : r.cells[k]? = some c) :
    r.pieces[k + 1]? = some c.raw := by
  have hk : k < (r.cells.map (·.raw)).length := by
    rw [List.length_map]
    exact (List.getElem?_eq_some_iff.1 h).1
  rw [pieces, List.cons_append, List.getElem?_cons_succ, List.getElem?_append_left hk,
    List.getElem?_map, h]
  rfl

lemma getElem?_pieces_width (r : Row) : r.pieces[r.width + 1]? = some r.marginRight := by
  have hk : (r.cells.map (·.raw)).length = r.width := List.length_map _
  rw [pieces, List.cons_append, List.getElem?_cons_succ, List.getElem?_append_right (by omega), hk,
    Nat.sub_self]
  rfl

lemma width_of_noCells {r : Row} (hcells : r.cells = []) : r.width = 0 := by
  rw [width, hcells, List.length_nil]

/-- The left margin comes first. -/
lemma exists_spans_eq_cons (r : Row) : ∃ rest, r.spans = ⟨0, r.marginLeft.length⟩ :: rest := by
  unfold spans
  split
  · exact ⟨_, rfl⟩
  · rw [pieces, List.cons_append, spansFrom, Nat.zero_add]
    exact ⟨_, rfl⟩

lemma mem_spans {r : Row} {s : Span} (h : s ∈ r.spans) :
    s.start ≤ s.stop ∧ s.stop ≤ r.text.length := by
  unfold spans at h
  by_cases hcells : r.cells = []
  · rw [if_pos hcells] at h
    rw [text, if_pos hcells]
    simp only [List.mem_cons, List.not_mem_nil, or_false] at h
    rcases h with rfl | rfl
    · exact ⟨Nat.zero_le _, Nat.le_refl _⟩
    · exact ⟨Nat.le_refl _, Nat.le_refl _⟩
  · rw [if_neg hcells] at h
    rw [text, if_neg hcells]
    obtain ⟨-, hle, hstop⟩ := mem_spansFrom h
    exact ⟨hle, by omega⟩

/-- Between any two spans of a row with cells there is a pipe. -/
lemma pairwise_spans {r : Row} (hcells : r.cells ≠ []) :
    r.spans.Pairwise fun s s' => s.stop < s'.start := by
  rw [spans, if_neg hcells]
  exact pairwise_spansFrom 0 r.pieces

lemma span_eq_getElem (r : Row) (column : Int)
    (h : (min column r.width + 1).toNat < r.spans.length) :
    r.span column = r.spans[(min column r.width + 1).toNat] := by
  rw [span, List.getD_eq_getElem?_getD, List.getElem?_eq_getElem h, Option.getD_some]

lemma lt_length_spans (r : Row) (column : Int) :
    (min column r.width + 1).toNat < r.spans.length := by
  rw [length_spans]
  omega

lemma span_mem (r : Row) (column : Int) : r.span column ∈ r.spans := by
  rw [span_eq_getElem r column (lt_length_spans r column)]
  exact List.getElem_mem _

/-- The pieces of a row with cells have the spans of its columns. -/
lemma span_eq_of_spansFrom {r : Row} (hcells : r.cells ≠ []) {column : Int} {s : Span}
    (h : (spansFrom 0 r.pieces)[(min column r.width + 1).toNat]? = some s) :
    r.span column = s := by
  rw [span, spans, if_neg hcells, List.getD_eq_getElem?_getD, h, Option.getD_some]

/-- The span of a column is as long as the piece that stands there. -/
lemma span_stop_eq {r : Row} (hcells : r.cells ≠ []) {column : Int} {t : Text}
    (h : r.pieces[(min column r.width + 1).toNat]? = some t) :
    (r.span column).stop = (r.span column).start + t.length := by
  obtain ⟨s, hs, hstop⟩ := getElem?_spansFrom 0 h
  rw [span_eq_of_spansFrom hcells hs, hstop]

/-! ## Columns of places -/

lemma neg_one_le_columnAt (r : Row) (place : Int) : -1 ≤ r.columnAt place := by
  unfold columnAt
  omega

lemma columnAt_le_width (r : Row) (place : Int) : r.columnAt place ≤ r.width := by
  unfold columnAt
  omega

lemma columnAt_of_le_marginLeft {r : Row} {place : Int} (h : place ≤ r.marginLeft.length) :
    r.columnAt place = -1 := by
  obtain ⟨rest, hspans⟩ := exists_spans_eq_cons r
  rw [columnAt, hspans, List.findIdx_cons]
  simp only [h, decide_true, cond_true]
  omega

lemma columnAt_nonneg {r : Row} {place : Int} (h : r.marginLeft.length < place) :
    0 ≤ r.columnAt place := by
  obtain ⟨rest, hspans⟩ := exists_spans_eq_cons r
  have hmargin : ¬ place ≤ r.marginLeft.length := by omega
  rw [columnAt, hspans, List.findIdx_cons]
  simp only [hmargin, decide_false, cond_false]
  omega

lemma edgeAt_of_le_marginLeft {r : Row} {place : Int} (h : place ≤ r.marginLeft.length) :
    r.edgeAt place = if place ≤ 0 then .leading else .trailing := by
  obtain ⟨rest, hspans⟩ := exists_spans_eq_cons r
  have hspan : r.span (-1) = ⟨0, r.marginLeft.length⟩ := by
    have hfirst : (min (-1) (r.width : Int) + 1).toNat = 0 := by omega
    rw [span, hspans, hfirst, List.getD_cons_zero]
  rw [edgeAt, columnAt_of_le_marginLeft h, hspan]
  rfl

/-- A place between the ends of the span of a column is in that column. -/
lemma columnAt_eq {r : Row} (hcells : r.cells ≠ []) {column : Int} (hleft : -1 ≤ column)
    (hright : column ≤ r.width) {place : Int} (hstart : (r.span column).start ≤ place)
    (hstop : place ≤ (r.span column).stop) : r.columnAt place = column := by
  have hk := lt_length_spans r column
  have hspan := span_eq_getElem r column hk
  have hfirst : (r.spans.findIdx fun s => place ≤ s.stop) = (min column r.width + 1).toNat := by
    rw [List.findIdx_eq hk]
    refine ⟨?_, fun j hj => ?_⟩
    · rw [← hspan]
      exact decide_eq_true hstop
    · -- the spans in front of it stop before it starts
      have hlt := List.pairwise_iff_getElem.1 (pairwise_spans hcells) j _ (Nat.lt_trans hj hk) hk hj
      rw [← hspan] at hlt
      refine decide_eq_false ?_
      omega
  unfold columnAt
  rw [hfirst]
  omega

/-! ## Places of columns -/

lemma placeOf_mem_span (r : Row) (column : Int) (e : Edge) :
    (r.span column).start ≤ r.placeOf column e ∧ r.placeOf column e ≤ (r.span column).stop := by
  obtain ⟨hle, -⟩ := mem_spans (span_mem r column)
  cases e with
  | leading => exact ⟨Nat.le_refl _, hle⟩
  | trailing =>
    unfold placeOf
    dsimp only
    split <;> omega

lemma placeOf_le_length_text (r : Row) (column : Int) (e : Edge) :
    r.placeOf column e ≤ r.text.length :=
  Nat.le_trans (placeOf_mem_span r column e).2 (mem_spans (span_mem r column)).2

/-- The two ends of a column are one place exactly when nothing stands there. -/
lemma placeOf_trailing_le_iff (r : Row) (column : Int) :
    r.placeOf column .trailing ≤ (r.span column).start ↔
      (r.span column).stop = (r.span column).start := by
  obtain ⟨hle, -⟩ := mem_spans (span_mem r column)
  unfold placeOf
  dsimp only
  split <;> omega

lemma placeOf_of_empty {r : Row} {column : Int}
    (h : (r.span column).stop = (r.span column).start) (e : Edge) :
    r.placeOf column e = (r.span column).start := by
  obtain ⟨hstart, hstop⟩ := placeOf_mem_span r column e
  omega

lemma columnAt_placeOf {r : Row} (hcells : r.cells ≠ []) {column : Int} (hleft : -1 ≤ column)
    (hright : column ≤ r.width) (e : Edge) : r.columnAt (r.placeOf column e) = column := by
  obtain ⟨hstart, hstop⟩ := placeOf_mem_span r column e
  exact columnAt_eq hcells hleft hright (Int.ofNat_le.2 hstart) (Int.ofNat_le.2 hstop)

lemma edgeAt_placeOf {r : Row} (hcells : r.cells ≠ []) {column : Int} (hleft : -1 ≤ column)
    (hright : column ≤ r.width) (e : Edge) :
    r.edgeAt (r.placeOf column e) =
      if (r.span column).stop = (r.span column).start then .leading else e := by
  rw [edgeAt, columnAt_placeOf hcells hleft hright]
  simp only [Int.ofNat_le]
  cases e with
  | leading =>
    have hplace : r.placeOf column .leading = (r.span column).start := rfl
    rw [hplace, if_pos (Nat.le_refl _), ite_self]
  | trailing => simp only [placeOf_trailing_le_iff]

end Row

end PipeTable
