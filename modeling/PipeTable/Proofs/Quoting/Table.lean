import PipeTable.Proofs.Reformat.Tidy

/-!
# Quoted tables

To quote lines is to put the same text in front of each of them, as a block quote does.  If the text
may be part of a left margin, it goes to the left margin of every row and nothing else of the row
changes (`readTable_quoted`, and `lines_quoted` for the way back).

Completing leaves a left margin as it is and formatting copies that of the header, so both commute
with quoting.  A delimiter row that completing adds has no margin, quoted or not, and this is why
the completed tables are only `Alike`: they have the same cells in every row and the same left
margin in the header, which is all that formatting looks at (`Alike.format_eq`).  The main statement
is `tidy_quoted`.
-/

namespace PipeTable

open Segment

/-! ## Rows -/

namespace Row

/-- The row with a text in front of its left margin. -/
def quoted (m : Text) (r : Row) : Row := { r with marginLeft := m ++ r.marginLeft }

@[simp] lemma marginLeft_quoted (m : Text) (r : Row) :
    (r.quoted m).marginLeft = m ++ r.marginLeft := rfl

@[simp] lemma cells_quoted (m : Text) (r : Row) : (r.quoted m).cells = r.cells := rfl

@[simp] lemma marginRight_quoted (m : Text) (r : Row) :
    (r.quoted m).marginRight = r.marginRight := rfl

@[simp] lemma width_quoted (m : Text) (r : Row) : (r.quoted m).width = r.width := rfl

lemma text_quoted (m : Text) (r : Row) : (r.quoted m).text = m ++ r.text := by
  have hne : r.cells.map (·.raw) ++ [r.marginRight] ≠ [] := by simp
  unfold text
  rw [cells_quoted]
  split
  · rfl
  · rw [pieces, pieces, cells_quoted, marginLeft_quoted, marginRight_quoted, List.cons_append,
      List.cons_append, List.intercalate_cons_of_ne_nil hne, List.intercalate_cons_of_ne_nil hne]
    simp only [List.append_assoc]

lemma extendTo_quoted (m : Text) (r : Row) (width : Nat) (fill : Nat → Cell) :
    (r.quoted m).extendTo width fill = (r.extendTo width fill).quoted m := by
  unfold extendTo
  rw [width_quoted]
  split <;> rfl

end Row

/-- The table with a text in front of the left margin of every row. -/
def Table.quoted (m : Text) (t : Table) : Table := ⟨t.rows.map (Row.quoted m)⟩

@[simp] lemma Table.rows_quoted (m : Text) (t : Table) :
    (t.quoted m).rows = t.rows.map (Row.quoted m) := rfl

/-! ## Reading -/

lemma segments_append_plain {m : Text} (hm : IsPlain m) (line : Text) :
    segments (m ++ line) = (segments line).modifyHead (m ++ ·) := by
  induction m with
  | nil => exact (congrFun List.modifyHead_id (segments line)).symm
  | cons c m ih =>
    have hc : isMarkup c = false := hm c List.mem_cons_self
    have hpipe : c ≠ pipe := (isMarkup_eq_false.1 hc).1
    have hrest : segments (m ++ line) = (segments line).modifyHead (m ++ ·) :=
      ih fun d hd => hm d (List.mem_cons_of_mem c hd)
    rw [List.cons_append, segments, splitFrom, if_neg hpipe, heldBy_of_not_isMarkup hc, ← segments,
      hrest, List.modifyHead_modifyHead]
    rfl

section
variable {rule : MarginRule} {m : Text}

/-- A line that begins with a left margin is read with the quote in front of it. -/
lemma readRow_append (hrule : rule.IsSingle) (hm : rule.matchesAll m) {line : Text}
    (hline : ∀ first ∈ (segments line).head?, rule.matchesAll first) :
    readRow rule (m ++ line) = (readRow rule line).quoted m := by
  obtain ⟨first, rest, hsegments⟩ := List.exists_cons_of_ne_nil (splitFrom_ne_nil 0 line)
  have hfirst : rule.matchesAll first := hline first (by rw [segments, hsegments]; rfl)
  have happend : rule.matchesAll (m ++ first) := by
    rw [MarginRule.matchesAll, List.all_append, Bool.and_eq_true]
    exact ⟨hm, hfirst⟩
  have hquoted : segments (m ++ line) = (m ++ first) :: rest := by
    rw [segments_append_plain (hrule.isPlain hm), segments, hsegments]
    rfl
  simp only [readRow, hquoted, takeMarginLeft_cons happend]
  rw [segments, hsegments, takeMarginLeft_cons hfirst]
  rfl

lemma readTable_quoted (hrule : rule.IsSingle) (hm : rule.matchesAll m) {lines : List Text}
    (hlines : ∀ line ∈ lines, ∀ first ∈ (segments line).head?, rule.matchesAll first) :
    readTable rule (lines.map (m ++ ·)) = (readTable rule lines).quoted m := by
  simp only [readTable, Table.quoted, List.map_map, Table.mk.injEq]
  exact List.map_congr_left fun line hline => readRow_append hrule hm (hlines line hline)

end

/-! ## Tables -/

namespace Table

lemma lines_quoted (m : Text) (t : Table) : (t.quoted m).lines = t.lines.map (m ++ ·) := by
  simp only [lines, rows_quoted, List.map_map]
  exact List.map_congr_left fun r _ => r.text_quoted m

lemma width_quoted (m : Text) (t : Table) : (t.quoted m).width = t.width := by
  rw [width, rows_quoted, List.foldr_map]
  rfl

lemma row?_quoted (m : Text) (t : Table) (row : Int) :
    (t.quoted m).row? row = (t.row? row).map (Row.quoted m) := by
  unfold row? Sequence.get?
  split
  · rw [rows_quoted, List.getElem?_map]
  · rfl

/-! ## Parts -/

namespace Parts

/-- Parts with a text in front of the left margin of every row. -/
def quoted (m : Text) (p : Parts) : Parts where
  header := p.header.quoted m
  delimiter? := p.delimiter?.map (Row.quoted m)
  body := p.body.map (Row.quoted m)

lemma toTable_quoted (m : Text) (p : Parts) : (p.quoted m).toTable = p.toTable.quoted m := by
  cases hd : p.delimiter? <;> simp [toTable, quoted, Table.quoted, hd]

end Parts

lemma parts?_quoted (m : Text) (t : Table) :
    (t.quoted m).parts? = t.parts?.map (Parts.quoted m) := by
  obtain ⟨rows⟩ := t
  match rows with
  | [] => rfl
  | [header] => rfl
  | header :: second :: rest =>
    -- the margin is no part of what makes a row a delimiter row
    have hquoted : (second.quoted m).isDelimiter = second.isDelimiter := rfl
    cases hsecond : second.isDelimiter <;> simp [parts?, hquoted, hsecond, Parts.quoted]

/-! ## Tables that are formatted alike -/

/-- Tables with the same cells in their rows and the same left margin in the header. -/
structure Alike (t u : Table) : Prop where
  cells_eq : List.Forall₂ (fun r s => r.cells = s.cells) t.rows u.rows
  marginLeft_eq : t.rows.head?.map (·.marginLeft) = u.rows.head?.map (·.marginLeft)

namespace Alike

variable {t u : Table}

/-- Where the delimiter row is and what formatting looks at can be told from the cells. -/
lemma gist_eq (h : t.Alike u) : t.parts?.map Parts.gist = u.parts?.map Parts.gist := by
  obtain ⟨rows⟩ := t
  obtain ⟨rows'⟩ := u
  obtain ⟨hcells, hmargin⟩ := h
  have hcontents {r s : Row} (hrs : r.cells = s.cells) : r.contents = s.contents := by
    rw [Row.contents, Row.contents, hrs]
  have halignments {r s : Row} (hrs : r.cells = s.cells) : r.alignments = s.alignments := by
    rw [Row.alignments, Row.alignments, hrs]
  have hdelimiter {r s : Row} (hrs : r.cells = s.cells) : r.isDelimiter = s.isDelimiter := by
    rw [Row.isDelimiter, Row.isDelimiter, hrs]
  dsimp only at hcells hmargin
  cases hcells with
  | nil => rfl
  | @cons header header' rest rest' hheader hrest =>
    have hleft : header.marginLeft = header'.marginLeft := by simpa using hmargin
    cases hrest with
    | nil => simp [parts?, Parts.gist, hcontents hheader, hleft]
    | @cons second second' rest rest' hsecond hrest =>
      have hbody : rest.map (·.contents) = rest'.map (·.contents) :=
        (map_eq_of_forall₂ (R := fun r s => r.cells = s.cells)
          (fun _ _ hrs => (hcontents hrs).symm) hrest).symm
      simp only [parts?, hdelimiter hsecond]
      split <;> simp [Parts.gist, hcontents hheader, hcontents hsecond, halignments hsecond, hleft,
        hbody]

/-- Formatting looks at no more than that. -/
lemma format_eq (h : t.Alike u) (style : Style) (hrows : t.rows ≠ []) :
    t.format style = u.format style := by
  have hgist := h.gist_eq
  obtain ⟨p, hp⟩ := exists_parts?_eq hrows
  rw [hp] at hgist
  obtain ⟨q, hq, hpq⟩ := Option.map_eq_some_iff.1 hgist.symm
  have hmargin : q.header.marginLeft = p.header.marginLeft := congrArg Gist.margin hpq
  have hcells : q.header.cells = [] ↔ p.header.cells = [] := by
    have hcontents : q.header.contents = p.header.contents := congrArg Gist.header hpq
    rw [← List.map_eq_nil_iff (f := Cell.content), ← List.map_eq_nil_iff (f := Cell.content)]
    exact Eq.congr_left hcontents
  have hcollapse (margin : Text) : u.collapse margin = t.collapse margin := by
    simp only [collapse, List.map_const', h.cells_eq.length_eq]
  unfold format
  cases style.layout.layout? with
  | none => rfl
  | some layout =>
    simp only [formatIn, hp, hq, hcells, hmargin, hcollapse, Parts.format_congr style layout hpq]

end Alike

/-! ## Completing and formatting -/

namespace Parts

/-- Completed parts of a quoted table are alike to the quoted parts of the completed table. -/
lemma alike_complete_quoted (m : Text) (style : Style) (width : Nat) (p : Parts) :
    ((p.quoted m).complete style width).toTable.Alike
      ((p.complete style width).toTable.quoted m) := by
  have hcomplete (r : Row) : (r.quoted m).complete width = (r.complete width).quoted m :=
    Row.extendTo_quoted m r width _
  have hbars (r : Row) :
      (r.quoted m).completeBars style width = (r.completeBars style width).quoted m :=
    Row.extendTo_quoted m r width _
  refine ⟨.cons ?_ (.cons ?_ ?_), ?_⟩
  · exact congrArg Row.cells (hcomplete p.header)
  · -- only the cells of the delimiter row are the same
    cases hd : p.delimiter? with
    | none => simp [quoted, hd]
    | some d => simp [quoted, hd, hbars]
  · simp [complete, quoted, hcomplete, List.forall₂_same]
  · simp [toTable, complete, quoted, hcomplete]

lemma columns_quoted (m : Text) (style : Style) (fallback : Alignment) (p : Parts) :
    (p.quoted m).columns style fallback = p.columns style fallback := by
  have hwidth (column : Nat) :
      (p.quoted m).columnWidth style column = p.columnWidth style column := by
    have hrows : (p.quoted m).contentRows = p.contentRows.map (Row.quoted m) := rfl
    rw [columnWidth, columnWidth, hrows, List.foldr_map]
    cases hd : p.delimiter? <;> simp only [quoted, hd, Option.map_none, Option.map_some] <;> rfl
  have hdeclared (column : Nat) : (p.quoted m).declared column = p.declared column := by
    cases hd : p.delimiter? with
    | none => simp [declared, quoted, hd]
    | some d => simp [declared, quoted, hd, Row.alignments]
  simp only [columns, toTable_quoted, width_quoted, hwidth, hdeclared]

lemma formatNormal_quoted (m : Text) (style : Style) (p : Parts) :
    (p.quoted m).formatNormal style = (p.formatNormal style).map (Parts.quoted m) := by
  have hbody (columns : List Column) :
      ((p.quoted m).body.mapM fun r => r.fillColumns style columns none) =
        p.body.mapM fun r => r.fillColumns style columns none := by
    rw [quoted, List.mapM_map]
    rfl
  have hmargin : (p.quoted m).header.marginLeft = m ++ p.header.marginLeft := rfl
  unfold formatNormal
  simp only [map_bind_eq, columns_quoted, hbody, hmargin]
  refine bind_congr fun fallback => bind_congr fun override => ?_
  refine bind_congr fun header => bind_congr fun body => congrArg Except.ok ?_
  simp only [quoted, List.map_map, Option.map_map]
  rfl

lemma formatWeak_quoted (m : Text) (style : Style) (p : Parts) :
    (p.quoted m).formatWeak style = (p.formatWeak style).quoted m := by
  simp only [formatWeak, quoted, List.map_map, Option.map_map]
  rfl

lemma format_quoted (m : Text) (style : Style) (layout : Layout) (p : Parts) :
    (p.quoted m).format style layout = (p.format style layout).map (Parts.quoted m) := by
  cases layout with
  | normal => exact formatNormal_quoted m style p
  | weak => exact congrArg Except.ok (formatWeak_quoted m style p)

end Parts

/-- A quoted table with rows is formatted to the quoted formatted table. -/
lemma format_quoted (m : Text) (style : Style) {t : Table} (hrows : t.rows ≠ []) :
    (t.quoted m).format style =
      (t.format style).map fun f => ⟨f.table.quoted m, m ++ f.marginLeft⟩ := by
  obtain ⟨p, hp⟩ := exists_parts?_eq hrows
  have hcollapse (margin : Text) :
      (t.quoted m).collapse (m ++ margin) = (t.collapse margin).quoted m := by
    simp only [collapse, Table.quoted, List.map_map]
    rfl
  unfold format
  cases style.layout.layout? with
  | none => rfl
  | some layout =>
    have hheader : (p.quoted m).header = p.header.quoted m := rfl
    simp only [formatIn, parts?_quoted, hp, Option.map_some, hheader, Row.marginLeft_quoted,
      Row.cells_quoted]
    split
    · rw [hcollapse]
      rfl
    · rw [Parts.format_quoted]
      cases p.format style layout with
      | error fault => rfl
      | ok q => exact congrArg Except.ok (congrArg (Formatted.mk · _) (Parts.toTable_quoted m q))

lemma tidy_quoted (m : Text) (style : Style) (t : Table) :
    (t.quoted m).tidy style =
      (t.tidy style).map fun u => ⟨u.table.quoted m, m ++ u.marginLeft, u.delimiterInserted⟩ := by
  have hquoted := parts?_quoted m t
  cases hp : t.parts? with
  | none =>
    rw [hp] at hquoted
    simp only [tidy, complete, hp, hquoted]
    rfl
  | some p =>
    rw [hp] at hquoted
    have halike := Parts.alike_complete_quoted m style t.width p
    have hrows : (p.complete style t.width).toTable.rows ≠ [] := List.cons_ne_nil _ _
    have hformat : ((p.quoted m).complete style t.width).toTable.format style =
        ((p.complete style t.width).toTable.format style).map fun f =>
          ⟨f.table.quoted m, m ++ f.marginLeft⟩ := by
      rw [halike.format_eq style (List.cons_ne_nil _ _), format_quoted m style hrows]
    have hinserted : (p.quoted m).delimiter?.isNone = p.delimiter?.isNone := Option.isNone_map
    unfold tidy
    rw [complete_eq_of_parts? style hp, complete_eq_of_parts? style hquoted, width_quoted,
      hinserted]
    simp only [bind, Except.bind, hformat]
    cases (p.complete style t.width).toTable.format style <;> rfl

end Table

end PipeTable
