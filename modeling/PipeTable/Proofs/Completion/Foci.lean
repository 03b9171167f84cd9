import PipeTable.Proofs.Completion.Dashes
import PipeTable.Proofs.Reformat.Cursor

/-!
# What completion keeps

Completion writes at the end of a row only.  What stood between the pipes stays there, and the
right margin, which would otherwise be pushed away, becomes the text of the first new cell; in a
delimiter row the first new bar is as long as the right margin was.  So all that was written is
still where it was (`Row.text_prefix_complete`), and a place in the text of a row has the same focus
as before (`Row.focus_extendTo`).  The main statement, `complete_keeps_rows`, is about all rows of a
table at once, whatever its shape and whatever the style.
-/

namespace PipeTable

namespace Row

section
variable {r : Row} {width : Nat} {fill : Nat → Cell}

/-! ## Places in an extended row -/

/-- The first new cell of a row comes where the right margin was, and more may follow it. -/
lemma exists_pieces_extendTo (hshort : r.width < width) (fill : Nat → Cell) :
    ∃ rest, (r.extendTo width fill).pieces =
      (r.marginLeft :: r.cells.map (·.raw)) ++ (fill r.width).raw :: rest := by
  obtain ⟨n, hn⟩ : ∃ n, width - r.width = n + 1 := ⟨width - r.width - 1, by omega⟩
  refine ⟨((List.range' (r.width + 1) n).map fill).map (·.raw) ++ [[]], ?_⟩
  rw [pieces, cells_extendTo, marginLeft_extendTo, marginRight_extendTo,
    if_neg (Nat.not_le_of_lt hshort), hn, List.range'_succ]
  simp

lemma cells_extendTo_ne_nil (hshort : r.width < width) (fill : Nat → Cell) :
    (r.extendTo width fill).cells ≠ [] := by
  have hwidth : (r.extendTo width fill).width = width :=
    width_extendTo_eq (Nat.le_of_lt hshort) fill
  rw [← List.length_pos_iff, ← Row.width, hwidth]
  exact Nat.zero_lt_of_lt hshort

/-- In front of the right margin the spans of a row with cells stay where they are when it is
extended, and the first new cell starts where the right margin did. -/
lemma exists_spans_extendTo (hcells : r.cells ≠ []) (hshort : r.width < width)
    (fill : Nat → Cell) :
    ∃ front place rest,
      r.spans = front ++ [⟨place, place + r.marginRight.length⟩] ∧
      (r.extendTo width fill).spans =
        front ++ ⟨place, place + (fill r.width).raw.length⟩ :: rest ∧
      r.text.length = place + r.marginRight.length := by
  obtain ⟨place, hplace⟩ := exists_spansFrom_append 0 (r.marginLeft :: r.cells.map (·.raw))
  have hpieces : r.pieces = (r.marginLeft :: r.cells.map (·.raw)) ++ [r.marginRight] := rfl
  obtain ⟨rest, hextended⟩ := exists_pieces_extendTo hshort fill
  have hne := cells_extendTo_ne_nil hshort fill
  refine ⟨spansFrom 0 (r.marginLeft :: r.cells.map (·.raw)), place,
    spansFrom (place + (fill r.width).raw.length + 1) rest, ?_, ?_, ?_⟩
  · rw [spans, if_neg hcells, hpieces, (hplace _).1]
    rfl
  · rw [spans, if_neg hne, hextended, (hplace _).1]
    rfl
  · have hlength := (hplace [r.marginRight]).2 (List.cons_ne_nil _ _)
    rw [text, if_neg hcells, hpieces, ← Nat.zero_add (List.length _), hlength,
      List.intercalate_singleton]

/-- All spans of a row but the last one are those of the left margin and the cells. -/
lemma length_front_of_spans {front : List Span} {last : Span} (h : r.spans = front ++ [last]) :
    front.length = r.width + 1 := by
  have hlength := length_spans r
  rw [h, List.length_append, List.length_singleton] at hlength
  omega

/-- A place in the text of a row is in the same column when the row is extended, if the first new
cell is as long as the right margin. -/
lemma columnAt_extendTo (hcells : r.cells ≠ []) (hshort : r.width < width)
    (hfirst : r.marginRight.length ≤ (fill r.width).raw.length) {place : Int}
    (hplace : place ≤ r.text.length) :
    (r.extendTo width fill).columnAt place = r.columnAt place := by
  obtain ⟨front, last, rest, hspans, hextended, hlength⟩ :=
    exists_spans_extendTo hcells hshort fill
  have hfront := length_front_of_spans hspans
  have hwidth : (r.extendTo width fill).width = width :=
    width_extendTo_eq (Nat.le_of_lt hshort) fill
  have hreach : place ≤ ((last + r.marginRight.length : Nat) : Int) := hlength ▸ hplace
  have hreach' : place ≤ ((last + (fill r.width).raw.length : Nat) : Int) := by omega
  rw [columnAt, columnAt, hspans, hextended, hwidth, List.findIdx_append, List.findIdx_append,
    List.findIdx_cons, List.findIdx_cons]
  simp only [hreach, hreach', decide_true, cond_true]
  split <;> omega

/-- The spans of a row start where they did when the row is extended. -/
lemma start_span_extendTo (hcells : r.cells ≠ []) (hshort : r.width < width) (fill : Nat → Cell)
    {column : Int} (hcolumn : column ≤ r.width) :
    ((r.extendTo width fill).span column).start = (r.span column).start := by
  obtain ⟨front, last, rest, hspans, hextended, -⟩ := exists_spans_extendTo hcells hshort fill
  have hfront := length_front_of_spans hspans
  have hwidth : (r.extendTo width fill).width = width :=
    width_extendTo_eq (Nat.le_of_lt hshort) fill
  have hindex : (min column (width : Nat) + 1).toNat = (min column (r.width : Nat) + 1).toNat := by
    omega
  have hle : (min column (r.width : Nat) + 1).toNat ≤ front.length := by omega
  rw [span, span, hwidth, hindex, hspans, hextended, List.getD_eq_getElem?_getD,
    List.getD_eq_getElem?_getD]
  rcases Nat.lt_or_eq_of_le hle with hlt | heq
  · rw [List.getElem?_append_left hlt, List.getElem?_append_left hlt]
  · rw [heq, List.getElem?_concat_length, List.getElem?_append_right (Nat.le_refl _),
      Nat.sub_self]
    rfl

/-- A place in the text of a row is at the same end of the same column when the row is extended, if
the first new cell is as long as the right margin. -/
lemma focus_extendTo (hfirst : r.marginRight.length ≤ (fill r.width).raw.length)
    {place : Int} (hplace : place ≤ r.text.length) (width : Nat) :
    (r.extendTo width fill).columnAt place = r.columnAt place ∧
      (r.extendTo width fill).edgeAt place = r.edgeAt place := by
  by_cases hshort : width ≤ r.width
  · rw [extendTo_of_le hshort]
    exact ⟨rfl, rfl⟩
  have hshort : r.width < width := Nat.lt_of_not_le hshort
  by_cases hcells : r.cells = []
  · -- all of the text is the left margin
    have hmargin : place ≤ r.marginLeft.length := by rwa [text, if_pos hcells] at hplace
    have hmargin' : place ≤ (r.extendTo width fill).marginLeft.length := by
      rwa [marginLeft_extendTo]
    rw [columnAt_of_le_marginLeft hmargin, columnAt_of_le_marginLeft hmargin',
      edgeAt_of_le_marginLeft hmargin, edgeAt_of_le_marginLeft hmargin']
    exact ⟨rfl, rfl⟩
  have hcolumn := columnAt_extendTo hcells hshort hfirst hplace
  have hstart := start_span_extendTo hcells hshort fill (r.columnAt_le_width place)
  exact ⟨hcolumn, by rw [edgeAt, edgeAt, hcolumn, hstart]⟩

end

/-! ## Completed rows -/

/-- The second row is the first one, completed to a width: the cells that were there come first, and
a row that is wide enough is left alone. -/
structure CompletedTo (width : Nat) (r s : Row) : Prop where
  width_eq : s.width = width
  marginLeft_eq : s.marginLeft = r.marginLeft
  cells_prefix : r.cells <+: s.cells
  eq_of_wide : r.width = width → s = r
  marginRight_of_short : r.width < width → s.marginRight = []

/-- The second row has all the text of the first one and nothing else between its pipes: the right
margin has become a cell, and all cells after it are empty. -/
structure FilledTo (width : Nat) (r s : Row) : Prop where
  cells_of_short : r.width < width →
    s.cells = r.cells ++ ⟨r.marginRight⟩ :: List.replicate (width - r.width - 1) .empty
  text_prefix : r.text <+: s.text

lemma completedTo_extendTo {r : Row} {width : Nat} (h : r.width ≤ width) (fill : Nat → Cell) :
    r.CompletedTo width (r.extendTo width fill) where
  width_eq := width_extendTo_eq h fill
  marginLeft_eq := marginLeft_extendTo r width fill
  cells_prefix := by
    rw [cells_extendTo]
    exact List.prefix_append _ _
  eq_of_wide hwide := extendTo_of_le (Nat.le_of_eq hwide.symm) fill
  marginRight_of_short hshort := by
    rw [marginRight_extendTo, if_neg (Nat.not_le_of_lt hshort)]

/-- The first of the new cells of a row takes over its right margin. -/
lemma cells_complete {r : Row} {width : Nat} (hshort : r.width < width) :
    (r.complete width).cells =
      r.cells ++ ⟨r.marginRight⟩ :: List.replicate (width - r.width - 1) .empty := by
  obtain ⟨n, hn⟩ : ∃ n, width - r.width = n + 1 := ⟨width - r.width - 1, by omega⟩
  rw [complete, cells_extendTo, hn, List.range'_succ, List.map_cons, if_pos rfl]
  refine congrArg (fun cells => r.cells ++ (⟨r.marginRight⟩ : Cell) :: cells) ?_
  rw [Nat.add_sub_cancel, List.map_eq_replicate_iff.2, List.length_range']
  intro column hcolumn
  rw [List.mem_range'_1] at hcolumn
  exact if_neg (by omega)

/-- Texts that are joined begin with what the first of them make up when they are joined. -/
lemma intercalate_prefix (ts : List Text) (t : Text) (us : List Text) :
    List.intercalate [pipe] (ts ++ [t]) <+: List.intercalate [pipe] (ts ++ t :: us) := by
  induction ts with
  | nil =>
    cases us with
    | nil => exact List.prefix_refl _
    | cons u us =>
      rw [List.nil_append, List.nil_append, List.intercalate_singleton,
        List.intercalate_cons_cons, List.append_assoc]
      exact List.prefix_append _ _
  | cons v ts ih =>
    have hcons (ws : List Text) : List.intercalate [pipe] (v :: ts ++ t :: ws) =
        v ++ [pipe] ++ List.intercalate [pipe] (ts ++ t :: ws) := by
      cases ts <;> exact List.intercalate_cons_cons
    rw [hcons, hcons]
    exact (List.prefix_append_right_inj _).2 ih

/-- What was written in a row is where it was when the row is completed. -/
lemma text_prefix_complete (r : Row) (width : Nat) : r.text <+: (r.complete width).text := by
  by_cases hwide : width ≤ r.width
  · simp only [complete_of_le hwide, List.prefix_refl]
  have hshort : r.width < width := Nat.lt_of_not_le hwide
  obtain ⟨rest, hrest⟩ := exists_pieces_extendTo hshort
    fun column => if column = r.width then ⟨r.marginRight⟩ else .empty
  rw [if_pos rfl] at hrest
  rw [complete, text, text, if_neg (cells_extendTo_ne_nil hshort _), hrest]
  split
  · next hcells => simp [hcells]
  · exact intercalate_prefix (r.marginLeft :: r.cells.map (·.raw)) r.marginRight rest

lemma filledTo_complete (r : Row) (width : Nat) : r.FilledTo width (r.complete width) where
  cells_of_short := cells_complete
  text_prefix := text_prefix_complete r width

end Row

/-! ## Completed tables -/

namespace Table

/-- The focus of a place in a row. -/
lemma focusOf?_eq {t : Table} {i : Nat} {r : Row} (hr : t.rows[i]? = some r)
    (firstLine place : Int) :
    t.focusOf? ⟨firstLine + i, place⟩ firstLine =
      some ⟨i, r.columnAt place, (r.edgeAt place).offset⟩ := by
  have hindex : firstLine + (i : Int) - firstLine = i := by omega
  rw [focusOf?, hindex, row?, Sequence.get?_natCast, hr]
  rfl

/-- Every row of a completed table is an extended one, the first new cell of which is as long as the
right margin was. -/
lemma exists_extendTo_of_complete {t : Table} {p : Parts} (hp : t.parts? = some p) {i : Nat}
    {r : Row} (hr : t.rows[i]? = some r) (style : Style) :
    ∃ s, (p.complete style t.width).toTable.rows[rowAfter p.delimiter?.isNone i]? = some s ∧
      (∃ fill, r.marginRight.length ≤ (fill r.width).raw.length ∧
        s = r.extendTo t.width fill) ∧
      ((i = 1 → t.delimiterRow? = none) → r.FilledTo t.width s) := by
  rw [← toTable_of_parts? hp] at hr
  refine ⟨_, Parts.getElem?_complete hr style t.width, ?_, ?_⟩
  · split
    · refine ⟨_, ?_, rfl⟩
      rw [if_pos rfl, Cell.bar, length_delimiterText]
      omega
    · refine ⟨_, ?_, rfl⟩
      rw [if_pos rfl]
  · intro hcontents
    rw [if_neg]
    · exact Row.filledTo_complete r t.width
    · rintro ⟨hi, hsome⟩
      rw [delimiter?_of_parts? hp, hcontents hi] at hsome
      cases hsome

end Table

/-- Completing a table with rows keeps them all in their order, below a delimiter row that is added
only if there was none.  A row keeps its cells and gets those that it lacks; a row of contents keeps
its text, and every place in the text of a row has the focus that it had. -/
theorem complete_keeps_rows (style : Style) {t : Table} (hrows : t.rows ≠ []) :
    ∃ completed, t.complete style = .ok completed ∧
      completed.delimiterInserted = t.delimiterRow?.isNone ∧
      completed.table.height = t.height + (if t.delimiterRow?.isNone then 1 else 0) ∧
      (t.delimiterRow? = none → completed.table.rows[1]? = some (.bars style t.width)) ∧
      (∀ s ∈ completed.table.rows, s.width = t.width) ∧
      ∀ i r, t.rows[i]? = some r →
        ∃ s, completed.table.rows[rowAfter completed.delimiterInserted i]? = some s ∧
          r.CompletedTo t.width s ∧
          ((i = 1 → t.delimiterRow? = none) → r.FilledTo t.width s) ∧
          ∀ firstLine place : Int, place ≤ r.text.length →
            ∃ f, t.focusOf? ⟨firstLine + i, place⟩ firstLine = some f ∧
              completed.table.focusOf?
                  ⟨firstLine + rowAfter completed.delimiterInserted i, place⟩ firstLine =
                some (f.withRow (rowAfter completed.delimiterInserted i)) := by
  obtain ⟨p, hp⟩ := Table.exists_parts?_eq hrows
  have hcompleted := Table.complete_eq_of_parts? style hp
  obtain ⟨hinserted, hheight⟩ := Table.height_complete hcompleted
  refine ⟨_, hcompleted, hinserted, hheight, fun hnone => ?_,
    fun s hs => Table.width_of_mem_completed hcompleted hs, ?_⟩
  · rw [Table.getElem?_complete_one hcompleted, hnone]
  intro i r hr
  have hwidth : r.width ≤ t.width := Table.width_le (List.mem_of_getElem? hr)
  obtain ⟨s, hs, ⟨fill, hfirst, rfl⟩, hfilled⟩ := Table.exists_extendTo_of_complete hp hr style
  refine ⟨_, hs, Row.completedTo_extendTo hwidth fill, hfilled, ?_⟩
  intro firstLine place hplace
  obtain ⟨hcolumn, hedge⟩ := Row.focus_extendTo hfirst hplace t.width
  refine ⟨_, Table.focusOf?_eq hr firstLine place, ?_⟩
  rw [Table.focusOf?_eq hs firstLine place, hcolumn, hedge]
  rfl

/-- The delimiter row is one bar short and has a wide right margin, a place in which is a place in
the bar that comes instead.  The row below it is all margin. -/
theorem complete_keeps_rows_ragged :
    ∃ completed,
      (Table.mk [⟨[], [⟨"a".toList⟩, ⟨"b".toList⟩], []⟩,
        ⟨"> ".toList, [⟨"-".toList⟩], "      ".toList⟩,
        ⟨"  ".toList, [], []⟩]).complete .standard = .ok completed ∧
      completed.table.lines = ["|a|b|".toList, "> |-| ---- |".toList, "  |||".toList] ∧
      completed.table.focusOf? ⟨2 + (1 : Nat), 10⟩ 2 = some ⟨1, 1, 1⟩ := by
  obtain ⟨completed, hcompleted, -, -, -, -, hall⟩ := complete_keeps_rows .standard
    (t := ⟨[⟨[], [⟨"a".toList⟩, ⟨"b".toList⟩], []⟩,
      ⟨"> ".toList, [⟨"-".toList⟩], "      ".toList⟩, ⟨"  ".toList, [], []⟩]⟩)
    (List.cons_ne_nil _ _)
  cases hcompleted
  refine ⟨_, rfl, rfl, ?_⟩
  obtain ⟨s, -, -, -, hfocus⟩ := hall 1 _ rfl
  obtain ⟨f, hf, hkept⟩ := hfocus 2 10 (by decide)
  cases hf
  exact hkept

end PipeTable
