import PipeTable.Proofs.Edit.Commute
import PipeTable.Proofs.Formatting.Reshape

/-!
# What a change of an alignment leaves alone

A change of an alignment writes one row, the delimiter row, and in this row one cell, besides those
that it has to add (`Row.realigns_setBar`).  How far can it be seen once the table is formatted?
The side of a column is told by its own bar, but its width is told by all of its contents and by
whether the delimiter row has the column at all.  So the widths stay as long as no bar is added, and
the columns of the table differ in the side of one of them
(`Parts.agreeBeside_columns_withBars`).  From there it goes down to the rows: cells of other columns
are filled as before, and those of the column itself get the same number of spaces, at other ends
(`Row.length_raw_of_fillColumns`).

Where bars are added, other columns may become wider too, since they have room for the least number
of dashes from then on.
-/

namespace PipeTable

/-! ## Lists that agree beside one place -/

namespace Sequence

variable {α β : Type} {gap : Nat} {l l' : List α} {m m' : List β}

/-- The lists have the same elements, but for the one at the given place. -/
def AgreeBeside (gap : Nat) (l l' : List α) : Prop := ∀ k, k ≠ gap → l'[k]? = l[k]?

lemma AgreeBeside.refl (gap : Nat) (l : List α) : AgreeBeside gap l l := fun _ _ => rfl

lemma AgreeBeside.map (h : AgreeBeside gap l l') (f : α → β) :
    AgreeBeside gap (l.map f) (l'.map f) := by
  intro k hk
  rw [List.getElem?_map, List.getElem?_map, h k hk]

lemma AgreeBeside.zip (h : AgreeBeside gap l l') (hm : AgreeBeside gap m m') :
    AgreeBeside gap (l.zip m) (l'.zip m') := by
  intro k hk
  rw [List.zip_eq_zipWith, List.zip_eq_zipWith, List.getElem?_zipWith, List.getElem?_zipWith,
    h k hk, hm k hk]

/-- A pass over the lists makes of the same elements the same ones. -/
lemma AgreeBeside.of_mapM (h : AgreeBeside gap l l') {f : α → Except Fault β}
    (hm : l.mapM f = .ok m) (hm' : l'.mapM f = .ok m') : AgreeBeside gap m m' := by
  have hok {l : List α} {m : List β} (hm : l.mapM f = .ok m) : l.map f = m.map .ok :=
    map_eq_of_forall₂ (fun _ _ h => h) (mapM_eq_ok_iff.1 hm).flip
  intro k hk
  have hmap := h.map f k hk
  rw [hok hm, hok hm', List.getElem?_map, List.getElem?_map] at hmap
  exact Option.map_injective (fun _ _ => Except.ok.inj) hmap

end Sequence

open Sequence (AgreeBeside)

/-! ## The delimiter row -/

namespace Row

/-- The second row is the first one with the alignment of a column changed, where the header has
the given width: a bar that was there is kept, unless it is that of the column, and a bar that is
added declares no side. -/
structure Realigns (column width : Nat) (a : Alignment) (d e : Row) : Prop where
  marginLeft_eq : e.marginLeft = d.marginLeft
  marginRight_eq : e.marginRight = d.marginRight
  width_eq : e.width = max d.width width
  declares : (e.cells[column]?).bind (·.alignment?) = some a
  keeps : ∀ k, k ≠ column → k < d.width → e.cells[k]? = d.cells[k]?
  adds : ∀ k, k ≠ column → d.width ≤ k → k < width →
    (e.cells[k]?).bind (·.alignment?) = some .unset

variable {style : Style} {column width : Nat} {a : Alignment}

lemma realigns_setBar (hmin : 1 ≤ style.minDashes) (hcolumn : column < width) (a : Alignment)
    (d : Row) : d.Realigns column width a (d.setBar style column width a) where
  marginLeft_eq := rfl
  marginRight_eq := rfl
  width_eq := width_setBar style column width a d
  declares := by
    rw [getElem?_setBar_self style hcolumn]
    exact Cell.alignment?_mk_delimiterText a hmin
  keeps k hk hwidth := by
    rw [setBar, withCells, List.getElem?_set_ne hk.symm, Sequence.extend,
      List.getElem?_append_left hwidth]
  adds k hk hle hlt := by
    rw [setBar, withCells, List.getElem?_set_ne hk.symm, Sequence.getElem?_extend_of_lt hlt,
      List.getElem?_eq_none hle]
    exact Cell.alignment?_mk_delimiterText .unset hmin

/-- A row that has all columns of the header gets no bar besides that of the column. -/
lemma Realigns.agreeBeside {d e : Row} (h : d.Realigns column width a e)
    (hwidth : width ≤ d.width) : AgreeBeside column d.cells e.cells := by
  intro k hk
  by_cases hlt : k < d.width
  · exact h.keeps k hk hlt
  · have hle : e.width ≤ k := by
      rw [h.width_eq]
      omega
    rw [List.getElem?_eq_none hle, List.getElem?_eq_none (Nat.le_of_not_lt hlt)]

end Row

/-! ## Formatted rows -/

/-- The rows have the same cells in all columns but one, and cells of the same length in it. -/
structure Row.SameBeside (column : Nat) (r s : Row) : Prop where
  marginLeft_eq : s.marginLeft = r.marginLeft
  marginRight_eq : s.marginRight = r.marginRight
  agreeBeside : AgreeBeside column r.cells s.cells
  length_eq : s.cells.map (·.raw.length) = r.cells.map (·.raw.length)

namespace Row

variable {style : Style} {columns columns' : List Column} {override : Option Alignment}
  {column : Nat} {r : Row} {cells cells' : List Cell}

/-- How long a filled cell is depends on its content and on the width of its column. -/
lemma length_raw_of_fillColumns (h : r.fillColumns style columns override = .ok cells) :
    cells.map (·.raw.length) = List.zipWith
      (fun c (width : Nat) => c.content.length + style.measure.freeSpace c.content width + 2)
      r.cells (columns.map (·.width)) := by
  rw [List.zipWith_map_right, ← List.map_uncurry_zip_eq_zipWith]
  refine map_eq_of_forall₂ (fun ⟨c, column⟩ d hd => ?_) (mapM_eq_ok_iff.1 h)
  obtain ⟨text, htext, hcell⟩ := bind_eq_ok_iff.1 hd
  obtain ⟨side, rfl⟩ := exists_fill_of_align htext
  cases hcell
  simp [padded, Measure.fill]

/-- A bar is as long as its column is wide, and two characters more. -/
lemma length_raw_fillBars (columns : List Column) (r : Row) :
    (r.fillBars columns).map (·.raw.length) =
      ((columns.map (·.width)).take r.width).map (· + 2) := by
  refine List.ext_getElem (by simp [fillBars]) fun k _ _ => ?_
  simp [fillBars]

section
variable (hcolumns : AgreeBeside column columns columns')
  (hwidths : columns'.map (·.width) = columns.map (·.width))
include hcolumns hwidths

lemma sameBeside_of_fillColumns (margin : Text)
    (h : r.fillColumns style columns override = .ok cells)
    (h' : r.fillColumns style columns' override = .ok cells') :
    SameBeside column (.formatted margin cells) (.formatted margin cells') where
  marginLeft_eq := rfl
  marginRight_eq := rfl
  agreeBeside := ((AgreeBeside.refl column r.cells).zip hcolumns).of_mapM h h'
  length_eq := by
    rw [formatted, formatted, length_raw_of_fillColumns h, length_raw_of_fillColumns h', hwidths]

lemma sameBeside_fillBars (margin : Text) {d e : Row} (hde : AgreeBeside column d.cells e.cells)
    (hwidth : e.width = d.width) :
    SameBeside column (.formatted margin (d.fillBars columns))
      (.formatted margin (e.fillBars columns')) where
  marginLeft_eq := rfl
  marginRight_eq := rfl
  agreeBeside := ((hde.map _).zip hcolumns).map _
  length_eq := by
    rw [formatted, formatted, length_raw_fillBars, length_raw_fillBars, hwidths, hwidth]

end

lemma sameBeside_shortBars (style : Style) (margin : Text) {d e : Row}
    (hde : AgreeBeside column d.cells e.cells) (hwidth : e.width = d.width) :
    SameBeside column (.formatted margin (d.shortBars style))
      (.formatted margin (e.shortBars style)) where
  marginLeft_eq := rfl
  marginRight_eq := rfl
  agreeBeside := (hde.map _).map _
  length_eq := by
    refine List.ext_getElem ?_ fun k _ _ => ?_
    · simpa [formatted, shortBars] using hwidth
    · simp [formatted, shortBars]

lemma SameBeside.refl (column : Nat) (r : Row) : SameBeside column r r :=
  ⟨rfl, rfl, .refl column r.cells, rfl⟩

end Row

/-! ## Formatted tables -/

namespace Table

namespace Parts

/-- The parts with another delimiter row. -/
def withBars (e : Row) (p : Parts) : Parts := { p with delimiter? := some e }

section
variable {style : Style} {p q q' : Parts} {d e : Row} {column : Nat}

lemma contents_withBars (e : Row) (p : Parts) :
    (p.withBars e).contentRows.map (·.contents) = p.contentRows.map (·.contents) := rfl

lemma toTable_withBars (hd : p.delimiter? = some d) (e : Row) :
    (p.withBars e).toTable = ⟨p.toTable.rows.set 1 e⟩ := by
  obtain ⟨header, delimiter?, body⟩ := p
  obtain rfl : delimiter? = some d := hd
  rfl

variable (hd : p.delimiter? = some d) (hde : AgreeBeside column d.cells e.cells)
  (hwidth : e.width = d.width)
include hd hwidth

lemma map_width_withBars :
    (p.withBars e).delimiter?.map (·.width) = p.delimiter?.map (·.width) := by
  rw [withBars, hd]
  exact congrArg some hwidth

/-- The widths of the columns stay, because only the width of the delimiter row counts. -/
lemma columnWidth_withBars (style : Style) (j : Nat) :
    (p.withBars e).columnWidth style j = p.columnWidth style j :=
  columnWidth_congr (contents_withBars e p) (map_width_withBars hd hwidth) style j

lemma width_withBars : (p.withBars e).toTable.width = p.toTable.width :=
  width_congr (contents_withBars e p) (map_width_withBars hd hwidth)

lemma widths_columns_withBars (style : Style) (fallback : Alignment) :
    ((p.withBars e).columns style fallback).map (·.width) =
      (p.columns style fallback).map (·.width) := by
  rw [columns, columns, width_withBars hd hwidth, List.map_map, List.map_map]
  exact List.map_congr_left fun j _ => columnWidth_withBars hd hwidth style j

include hde

lemma agreeBeside_columns_withBars (style : Style) (fallback : Alignment) :
    AgreeBeside column (p.columns style fallback) ((p.withBars e).columns style fallback) := by
  intro k hk
  have hdeclared : (p.withBars e).declared k = p.declared k := by
    have halignments : e.alignments[k]? = d.alignments[k]? := hde.map _ k hk
    rw [declared, declared, hd, withBars]
    dsimp only
    rw [halignments]
  rw [columns, columns, width_withBars hd hwidth, List.getElem?_map, List.getElem?_map]
  refine Option.map_congr fun j hj => ?_
  obtain ⟨hlt, rfl⟩ := List.getElem?_eq_some_iff.1 hj
  rw [List.getElem_range, columnWidth_withBars hd hwidth, hdeclared]

lemma sameBeside_of_formatNormal (h : p.formatNormal style = .ok q)
    (h' : (p.withBars e).formatNormal style = .ok q') :
    List.Forall₂ (Row.SameBeside column) q.toTable.rows q'.toTable.rows := by
  obtain ⟨fallback, override, header, body, hfallback, hoverride, hheader, hbody, rfl⟩ :=
    exists_of_formatNormal h
  obtain ⟨fallback', override', header', body', hfallback', hoverride', hheader', hbody', rfl⟩ :=
    exists_of_formatNormal h'
  obtain rfl := Except.ok.inj (hfallback.symm.trans hfallback')
  obtain rfl := Except.ok.inj (hoverride.symm.trans hoverride')
  have hcolumns := agreeBeside_columns_withBars hd hde hwidth style fallback
  have hwidths := widths_columns_withBars hd hwidth style fallback
  have hrows : List.Forall₂ (Row.SameBeside column) (body.map (.formatted p.header.marginLeft))
      (body'.map (.formatted p.header.marginLeft)) := by
    rw [List.forall₂_map_left_iff, List.forall₂_map_right_iff]
    exact forall₂_of_common hbody hbody' fun r cells cells' hr hr' =>
      Row.sameBeside_of_fillColumns hcolumns hwidths p.header.marginLeft hr hr'
  rw [hd]
  exact .cons (Row.sameBeside_of_fillColumns hcolumns hwidths _ hheader hheader')
    (.cons (Row.sameBeside_fillBars hcolumns hwidths _ hde hwidth) hrows)

/-- In the weak layout only the bars are written to a width, and to one and the same. -/
lemma sameBeside_formatWeak (style : Style) :
    List.Forall₂ (Row.SameBeside column) (p.formatWeak style).toTable.rows
      ((p.withBars e).formatWeak style).toTable.rows := by
  rw [formatWeak, formatWeak, hd]
  exact .cons (.refl column _) (.cons (Row.sameBeside_shortBars style _ hde hwidth)
    (List.forall₂_same.2 fun r _ => .refl column r))

lemma sameBeside_of_formatBy (h : p.formatBy style = .ok q)
    (h' : (p.withBars e).formatBy style = .ok q') :
    List.Forall₂ (Row.SameBeside column) q.toTable.rows q'.toTable.rows := by
  unfold formatBy at h h'
  cases hlayout : style.layout.layout? with
  | none =>
    rw [hlayout] at h
    cases h
  | some layout =>
    rw [hlayout] at h h'
    cases layout with
    | normal => exact sameBeside_of_formatNormal hd hde hwidth h h'
    | weak =>
      cases h
      cases h'
      exact sameBeside_formatWeak hd hde hwidth style

end

end Parts

variable {style : Style} {t t' : Table} {d e : Row} {column : Nat}

/-- A delimiter row that differs in one bar from another one, and is as wide, is seen in the column
of this bar only. -/
lemma sameBeside_of_format (hd : t.delimiterRow? = some d) (hcells : t.headerWidth? ≠ some 0)
    (ht' : t'.rows = t.rows.set 1 e) (he : e.isDelimiter)
    (hde : AgreeBeside column d.cells e.cells) (hwidth : e.width = d.width) {f f' : Formatted}
    (h : t.format style = .ok f) (h' : t'.format style = .ok f') :
    f'.marginLeft = f.marginLeft ∧
      List.Forall₂ (Row.SameBeside column) f.table.rows f'.table.rows := by
  have hne : t.rows ≠ [] := List.ne_nil_of_mem
    (List.mem_of_getElem? (delimiterRow?_eq_some_iff.1 hd).1)
  obtain ⟨p, hp⟩ := exists_parts?_eq hne
  have hpd : p.delimiter? = some d := by rw [delimiter?_of_parts? hp, hd]
  have hheader : p.header.cells ≠ [] := by
    intro hnil
    rw [headerWidth?, header_of_parts? hp, Option.map_some, Row.width, hnil] at hcells
    exact hcells rfl
  have hp' : t'.parts? = some (p.withBars e) := by
    obtain rfl : (p.withBars e).toTable = t' := by
      rw [Parts.toTable_withBars hpd, toTable_of_parts? hp, ← ht']
    exact parts?_toTable rfl he
  rw [format_eq hp hheader] at h
  rw [format_eq hp' hheader] at h'
  obtain ⟨q, hq, rfl⟩ := exists_of_map_eq_ok h
  obtain ⟨q', hq', rfl⟩ := exists_of_map_eq_ok h'
  exact ⟨rfl, Parts.sameBeside_of_formatBy hpd hde hwidth hq hq'⟩

end Table

/-- Changing the alignment of a column of the header writes the bar of this column and adds the bars
that are missing, and does nothing else.  If none is missing, then any style that formats the table
before and after writes the same margins and the same cells, but for the column, whose cells have
the same lengths. -/
theorem alterAlignment_changes_column {style : Style} {t : Table} {d : Row} {column width : Nat}
    {value : Value} {a : Alignment} (hd : t.delimiterRow? = some d)
    (hwidth : t.headerWidth? = some width) (hcolumn : column < width)
    (hvalue : value.toAlignment = .ok a) (hmin : 1 ≤ style.minDashes) :
    ∃ t' e, t.alterAlignment style column value = .ok t' ∧ t'.rows = t.rows.set 1 e ∧
      t'.delimiterRow? = some e ∧ d.Realigns column width a e ∧
      (width ≤ d.width → ∀ (style' : Style) (f f' : Formatted),
        t.format style' = .ok f → t'.format style' = .ok f' →
        f'.marginLeft = f.marginLeft ∧
          List.Forall₂ (Row.SameBeside column) f.table.rows f'.table.rows) := by
  have haltered : t.alterAlignment style column value =
      .ok ⟨t.rows.set 1 (d.setBar style column width a)⟩ := by
    have hbounds : Sequence.inBounds column width = true :=
      Table.inBounds_iff.2 ⟨Int.natCast_nonneg column, Int.ofNat_lt.2 hcolumn⟩
    have halignable : t.alignable? column = some d := by
      rw [Table.alignable?, hwidth, Option.getD_some, if_pos hbounds, hd]
    rw [Table.alterAlignment, Table.alterAlignment?, halignable, hvalue, hwidth]
    rfl
  have hdelimiter := Table.delimiterRow?_set_setBar hmin hd column width a
  have hrealigns := d.realigns_setBar hmin hcolumn a
  refine ⟨_, _, haltered, rfl, hdelimiter, hrealigns, ?_⟩
  intro hle style' f f' hf hf'
  have hheader : t.headerWidth? ≠ some 0 := by
    rw [hwidth]
    intro hzero
    cases hzero
    exact Nat.not_lt_zero _ hcolumn
  refine Table.sameBeside_of_format hd hheader rfl (Table.delimiterRow?_eq_some_iff.1 hdelimiter).2
    (hrealigns.agreeBeside hle) ?_ hf hf'
  rw [hrealigns.width_eq, Nat.max_eq_left hle]

/-- A column goes to the right, below a bar that is written anew; the column before it declares its
side with a bar that is too short, and keeps it. -/
theorem alterAlignment_changes_column_right :
    ∃ t t' f f', t = Table.mk [⟨"> ".toList, [⟨['a']⟩, ⟨"bb".toList⟩], "x".toList⟩,
        ⟨[], [⟨":-".toList⟩, ⟨"-----".toList⟩], []⟩, ⟨[], [⟨['c']⟩, ⟨['d']⟩], []⟩] ∧
      t.alterAlignment .standard 1 (.choice (.alignment (.to .right))) = .ok t' ∧
      t'.rows[1]? = some ⟨[], [⟨":-".toList⟩, ⟨" ---:".toList⟩], []⟩ ∧
      t.format .standard = .ok f ∧ t'.format .standard = .ok f' ∧
      f.table.lines =
        ["> | a   | bb  |".toList, "> |:--- | --- |".toList, "> | c   | d   |".toList] ∧
      f'.table.lines =
        ["> | a   |  bb |".toList, "> |:--- | ---:|".toList, "> | c   |   d |".toList] ∧
      List.Forall₂ (Row.SameBeside 1) f.table.rows f'.table.rows := by
  obtain ⟨t', e, haltered, -, -, -, hformats⟩ := @alterAlignment_changes_column .standard
    ⟨[⟨"> ".toList, [⟨['a']⟩, ⟨"bb".toList⟩], "x".toList⟩,
      ⟨[], [⟨":-".toList⟩, ⟨"-----".toList⟩], []⟩, ⟨[], [⟨['c']⟩, ⟨['d']⟩], []⟩]⟩
    _ 1 2 (.choice (.alignment (.to .right))) (.to .right) rfl rfl (by decide) rfl (by decide)
  obtain rfl := Except.ok.inj haltered
  obtain ⟨-, hrows⟩ := hformats (by decide) .standard
    ⟨⟨[⟨"> ".toList, [⟨" a   ".toList⟩, ⟨" bb  ".toList⟩], []⟩,
      ⟨"> ".toList, [⟨":--- ".toList⟩, ⟨" --- ".toList⟩], []⟩,
      ⟨"> ".toList, [⟨" c   ".toList⟩, ⟨" d   ".toList⟩], []⟩]⟩, "> ".toList⟩
    ⟨⟨[⟨"> ".toList, [⟨" a   ".toList⟩, ⟨"  bb ".toList⟩], []⟩,
      ⟨"> ".toList, [⟨":--- ".toList⟩, ⟨" ---:".toList⟩], []⟩,
      ⟨"> ".toList, [⟨" c   ".toList⟩, ⟨"   d ".toList⟩], []⟩]⟩, "> ".toList⟩ rfl rfl
  exact ⟨_, _, _, _, rfl, haltered, rfl, rfl, rfl, rfl, rfl, hrows⟩

/-- A column behind the end of the delimiter row gets room for a bar when one before it is added. -/
example :
    let t := Table.mk [⟨[], [⟨['a']⟩, ⟨['b']⟩], []⟩, ⟨[], [⟨['-']⟩], []⟩]
    (t.format .standard).map (·.table.lines) = .ok ["| a   | b |".toList, "| --- |".toList] ∧
      (t.alterAlignment .standard 0 (.choice (.alignment .unset)) >>= (·.format .standard)).map
        (·.table.lines) = .ok ["| a   | b   |".toList, "| --- | --- |".toList] :=
  ⟨rfl, rfl⟩

end PipeTable
