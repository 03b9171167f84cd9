import PipeTable.Proofs.Delimiter
import PipeTable.Proofs.Formatting.Gist
import PipeTable.Proofs.Sequence
import PipeTable.Proofs.Table

/-!
# What formatting does to a row

Both layouts do the same to a table but for the number of spaces and dashes.  The cells of the
header and of the body keep their content and get other blanks around it (`Row.Refilled`); those of
the delimiter row keep their alignment and become bars of at least the least number of dashes
(`Row.Rebarred`); the left margin of the header goes to every row, and the right margins go.  The
main statement, `Parts.reshaped_of_format`, says that of a whole table, and what else is to be known
of a formatted table follows from it: first of all that it has the gist that it had before
(`Parts.Reshaped.gist_eq`).
-/

namespace PipeTable

open Text

/-! ## Rows -/

/-- The second row has the contents of the first one in its cells, and the margins of a formatted
table. -/
structure Row.Refilled (margin : Text) (r s : Row) : Prop where
  marginLeft : s.marginLeft = margin
  marginRight : s.marginRight = []
  cells : List.Forall₂ (fun c d => Repads c.raw d.raw) r.cells s.cells

/-- The second row has bars for the alignments of the first one in its cells, and the margins of a
formatted table. -/
structure Row.Rebarred (least : Int) (margin : Text) (r s : Row) : Prop where
  marginLeft : s.marginLeft = margin
  marginRight : s.marginRight = []
  cells : List.Forall₂
    (fun c d => ∃ dashes, least ≤ dashes ∧ d.raw = delimiterText c.alignment dashes) r.cells s.cells

namespace Row

section
variable {margin : Text} {least : Int} {r s : Row}

lemma Refilled.width_eq (h : Refilled margin r s) : s.width = r.width :=
  h.cells.length_eq.symm

lemma Rebarred.width_eq (h : Rebarred least margin r s) : s.width = r.width :=
  h.cells.length_eq.symm

lemma Refilled.contents_eq (h : Refilled margin r s) : s.contents = r.contents :=
  map_eq_of_forall₂ (fun _ _ hcd => hcd.trim_eq) h.cells

/-- With at least one dash, the new bars say what the old ones did. -/
lemma Rebarred.alignment?_eq (h : Rebarred least margin r s) (hleast : 1 ≤ least) :
    s.cells.map (·.alignment?) = r.alignments.map some := by
  rw [alignments, List.map_map]
  refine map_eq_of_forall₂ (fun c d hcd => ?_) h.cells
  obtain ⟨dashes, hdashes, hd⟩ := hcd
  obtain ⟨raw⟩ := d
  obtain rfl : raw = delimiterText c.alignment dashes := hd
  exact Cell.alignment?_mk_delimiterText c.alignment (Int.le_trans hleast hdashes)

lemma Rebarred.alignments_eq (h : Rebarred least margin r s) (hleast : 1 ≤ least) :
    s.alignments = r.alignments := by
  have hmap : s.alignments = (s.cells.map (·.alignment?)).map (·.getD .unset) := by
    rw [List.map_map]
    rfl
  rw [hmap, h.alignment?_eq hleast, List.map_map]
  exact List.map_id r.alignments

lemma Rebarred.isDelimiter (h : Rebarred least margin r s) (hleast : 1 ≤ least)
    (hr : r.cells ≠ []) : s.isDelimiter := by
  rw [isDelimiter_iff]
  refine ⟨fun hs => ?_, fun d hd => ?_⟩
  · have hlen := h.cells.length_eq
    rw [hs] at hlen
    exact hr (List.eq_nil_of_length_eq_zero hlen)
  · obtain ⟨c, -, dashes, hdashes, hraw⟩ := exists_mem_of_forall₂ h.cells hd
    obtain ⟨raw⟩ := d
    obtain rfl : raw = delimiterText c.alignment dashes := hraw
    exact Cell.isDelimiter_mk_delimiterText c.alignment (Int.le_trans hleast hdashes)

end

/-- Filling succeeds with the content of the text at some side. -/
lemma exists_fill_of_align {m : Measure} {t u : Text} {width : Int} {value : Value}
    (h : m.align t width value = .ok u) : ∃ side, u = m.fill t width side := by
  obtain ⟨side, -, hu⟩ := bind_eq_ok_iff.1 h
  exact ⟨side, by cases hu; rfl⟩

lemma refilled_of_fillColumns {style : Style} {columns : List Column} {override : Option Alignment}
    {r : Row} {cells : List Cell} (margin : Text) (hwidth : r.width ≤ columns.length)
    (h : r.fillColumns style columns override = .ok cells) :
    Refilled margin r (.formatted margin cells) := by
  refine ⟨rfl, rfl, forall₂_of_zip hwidth ((mapM_eq_ok_iff.1 h).imp ?_)⟩
  intro p d hd
  obtain ⟨text, htext, hcell⟩ := bind_eq_ok_iff.1 hd
  obtain ⟨side, rfl⟩ := exists_fill_of_align htext
  cases hcell
  exact Repads.padded_fill _ side p.1.raw

lemma refilled_padCells (margin : Text) (r : Row) :
    Refilled margin r (.formatted margin r.padCells) := by
  refine ⟨rfl, rfl, ?_⟩
  rw [formatted, padCells, List.forall₂_map_right_iff, List.forall₂_same]
  exact fun c _ => Repads.padded c.raw

lemma rebarred_shortBars (style : Style) (margin : Text) (r : Row) :
    Rebarred style.minDashes margin r (.formatted margin (r.shortBars style)) := by
  refine ⟨rfl, rfl, ?_⟩
  rw [formatted, shortBars, alignments, List.map_map, List.forall₂_map_right_iff,
    List.forall₂_same]
  exact fun c _ => ⟨style.minDashes, Int.le_refl _, rfl⟩

/-- Bars that are written to columns none of which is too narrow. -/
lemma rebarred_fillBars {least : Int} {columns : List Column} (margin : Text) {r : Row}
    (hwidth : r.width ≤ columns.length)
    (hleast : ∀ j column, j < r.width → columns[j]? = some column → least ≤ column.width) :
    Rebarred least margin r (.formatted margin (r.fillBars columns)) := by
  refine ⟨rfl, rfl, ?_⟩
  have hlen : (r.fillBars columns).length = r.cells.length := by
    have hmin : min r.cells.length columns.length = r.cells.length := Nat.min_eq_left hwidth
    simpa [fillBars, alignments] using hmin
  refine List.forall₂_iff_get.2 ⟨hlen.symm, ?_⟩
  intro j hj hj'
  have hjc : j < columns.length := Nat.lt_of_lt_of_le hj hwidth
  refine ⟨columns[j].width, hleast j _ hj (List.getElem?_eq_getElem hjc), ?_⟩
  simp [formatted, fillBars, alignments]

end Row

/-! ## Tables -/

/-- The second parts are the first ones with other blanks around the contents and other numbers of
dashes in the bars, and with the margins of a formatted table. -/
structure Table.Parts.Reshaped (least : Int) (p q : Table.Parts) : Prop where
  header : Row.Refilled p.header.marginLeft p.header q.header
  delimiter : Option.Rel (Row.Rebarred least p.header.marginLeft) p.delimiter? q.delimiter?
  body : List.Forall₂ (Row.Refilled p.header.marginLeft) p.body q.body

namespace Table.Parts

@[simp] lemma length_columns (style : Style) (fallback : Alignment) (p : Parts) :
    (p.columns style fallback).length = p.toTable.width := by
  simp [columns]

/-- A column of the delimiter row has room for the least number of dashes. -/
lemma minDashes_le_columnWidth {style : Style} {p : Parts} {d : Row} (hd : p.delimiter? = some d)
    {column : Nat} (hcolumn : column < d.width) :
    style.minDashes ≤ p.columnWidth style column := by
  have hleast := p.le_columnWidth style column
  rw [leastWidth, hd, Option.map_some, Option.getD_some, if_pos hcolumn] at hleast
  omega

lemma reshaped_formatWeak (style : Style) (p : Parts) :
    p.Reshaped style.minDashes (p.formatWeak style) where
  header := Row.refilled_padCells _ _
  delimiter := by
    cases hd : p.delimiter? with
    | none => simp only [formatWeak, hd]; exact .none
    | some d => simp only [formatWeak, hd]; exact .some (Row.rebarred_shortBars style _ d)
  body := by
    simp only [formatWeak, List.forall₂_map_right_iff, List.forall₂_same]
    exact fun r _ => Row.refilled_padCells _ r

/-- In the normal layout, parts that are formatted have filled rows: the header at the side that is
named for it, if one is, and the rows of the body. -/
lemma exists_of_formatNormal {style : Style} {p q : Parts} (h : p.formatNormal style = .ok q) :
    ∃ fallback override header body, style.defaultAlignment.toAlignment = .ok fallback ∧
      style.headerOverride = .ok override ∧
      p.header.fillColumns style (p.columns style fallback) override = .ok header ∧
      List.Forall₂ (fun r cells => r.fillColumns style (p.columns style fallback) none = .ok cells)
        p.body body ∧
      q = {
        header := .formatted p.header.marginLeft header
        delimiter? := p.delimiter?.map fun delimiter =>
          .formatted p.header.marginLeft (delimiter.fillBars (p.columns style fallback))
        body := body.map (.formatted p.header.marginLeft) } := by
  obtain ⟨fallback, hfallback, h⟩ := bind_eq_ok_iff.1 h
  obtain ⟨override, hoverride, h⟩ := bind_eq_ok_iff.1 h
  obtain ⟨header, hheader, h⟩ := bind_eq_ok_iff.1 h
  obtain ⟨body, hbody, h⟩ := bind_eq_ok_iff.1 h
  exact ⟨fallback, override, header, body, hfallback, hoverride, hheader, mapM_eq_ok_iff.1 hbody,
    (Except.ok.inj h).symm⟩

lemma reshaped_of_formatNormal {style : Style} {p q : Parts} (h : p.formatNormal style = .ok q) :
    p.Reshaped style.minDashes q := by
  obtain ⟨fallback, override, header, body, -, -, hheader, hbody, rfl⟩ := exists_of_formatNormal h
  have hlen := length_columns style fallback p
  refine ⟨?_, ?_, ?_⟩
  · exact Row.refilled_of_fillColumns _ (hlen ▸ width_le_of_mem (.inl rfl)) hheader
  · cases hd : p.delimiter? with
    | none => exact .none
    | some d =>
      refine .some (Row.rebarred_fillBars _ (hlen ▸ width_le_of_mem (.inr (.inl hd))) ?_)
      intro j column hj hcolumn
      have hwidth : column.width = p.columnWidth style j := by
        obtain ⟨hlt, hget⟩ := List.getElem?_eq_some_iff.1 hcolumn
        rw [← hget]
        simp [columns]
      rw [hwidth]
      exact minDashes_le_columnWidth hd hj
  · rw [List.forall₂_map_right_iff]
    refine (forall₂_mem hbody).imp ?_
    intro r cells hrow
    exact Row.refilled_of_fillColumns _ (hlen ▸ width_le_of_mem (.inr (.inr hrow.1))) hrow.2

/-- Formatting in either layout changes nothing but blanks, dashes and margins. -/
lemma reshaped_of_format {style : Style} {layout : Layout} {p q : Parts}
    (h : p.format style layout = .ok q) : p.Reshaped style.minDashes q := by
  cases layout with
  | normal => exact reshaped_of_formatNormal h
  | weak =>
    cases h
    exact reshaped_formatWeak style p

/-- Formatting keeps what it looks at. -/
lemma Reshaped.gist_eq {least : Int} {p q : Parts} (h : p.Reshaped least q) (hleast : 1 ≤ least) :
    q.gist = p.gist := by
  have halign : q.delimiter?.map (·.alignments) = p.delimiter?.map (·.alignments) :=
    map_eq_of_rel (fun _ _ hrs => hrs.alignments_eq hleast) h.delimiter
  have hbody : q.body.map (·.contents) = p.body.map (·.contents) :=
    map_eq_of_forall₂ (fun _ _ hrs => hrs.contents_eq) h.body
  rw [gist, gist, h.header.marginLeft, h.header.contents_eq, halign, hbody]

/-- Every row of formatted parts comes from one of the same kind. -/
lemma Reshaped.of_mem {least : Int} {p q : Parts} (h : p.Reshaped least q) {s : Row}
    (hs : s ∈ q.toTable.rows) :
    (∃ r ∈ p.contentRows, r.Refilled p.header.marginLeft s) ∨
      ∃ d, p.delimiter? = some d ∧ d.Rebarred least p.header.marginLeft s := by
  rcases mem_toTable.1 hs with rfl | hd | hb
  · exact .inl ⟨p.header, List.mem_cons_self, h.header⟩
  · have hdelimiter := h.delimiter
    rw [hd] at hdelimiter
    exact .inr (exists_of_rel_right hdelimiter)
  · obtain ⟨r, hr, hrs⟩ := exists_mem_of_forall₂ h.body hb
    exact .inl ⟨r, List.mem_cons_of_mem _ hr, hrs⟩

/-- Every row is reshaped at its place. -/
lemma Reshaped.exists_getElem? {least : Int} {p q : Parts} (h : p.Reshaped least q) {i : Nat}
    {r : Row} (hr : p.toTable.rows[i]? = some r) :
    ∃ s, q.toTable.rows[i]? = some s ∧
      if i = 1 ∧ p.delimiter?.isSome then Row.Rebarred least p.header.marginLeft r s
      else Row.Refilled p.header.marginLeft r s := by
  obtain ⟨header, delimiter?, body⟩ := p
  obtain ⟨header', delimiter?', body'⟩ := q
  obtain ⟨hheader, hdelimiter, hbody⟩ := h
  cases i with
  | zero =>
    obtain rfl : header = r := by simpa [toTable] using hr
    exact ⟨header', rfl, hheader⟩
  | succ k =>
    cases hdelimiter with
    | none =>
      obtain ⟨s, hs, hrs⟩ := exists_getElem?_of_forall₂ hbody (by simpa [toTable] using hr)
      exact ⟨s, by simpa [toTable] using hs, by simpa using hrs⟩
    | some hde =>
      cases k with
      | zero =>
        obtain rfl := by simpa [toTable] using hr
        exact ⟨_, rfl, by simpa using hde⟩
      | succ k =>
        obtain ⟨s, hs, hrs⟩ := exists_getElem?_of_forall₂ hbody (by simpa [toTable] using hr)
        exact ⟨s, by simpa [toTable] using hs, by simpa using hrs⟩

lemma Reshaped.height_eq {least : Int} {p q : Parts} (h : p.Reshaped least q) :
    q.toTable.height = p.toTable.height := by
  obtain ⟨header, delimiter?, body⟩ := p
  obtain ⟨header', delimiter?', body'⟩ := q
  obtain ⟨-, hdelimiter, hbody⟩ := h
  rw [height_toTable, height_toTable, hbody.length_eq]
  cases hdelimiter <;> rfl

end Table.Parts

/-! ## Formatting a table -/

namespace Table

namespace Parts

/-- Formats parts in the layout of a style. -/
def formatBy (style : Style) (p : Parts) : Except Fault Parts :=
  match style.layout.layout? with
  | none => .error (.unknownLayout style.layout)
  | some layout => p.format style layout

lemma formatBy_congr (style : Style) {p q : Parts} (h : p.gist = q.gist) :
    p.formatBy style = q.formatBy style := by
  unfold formatBy
  cases style.layout.layout? with
  | none => rfl
  | some layout => exact format_congr style layout h

lemma reshaped_of_formatBy {style : Style} {p q : Parts} (h : p.formatBy style = .ok q) :
    p.Reshaped style.minDashes q := by
  unfold formatBy at h
  cases hlayout : style.layout.layout? with
  | none => simp [hlayout] at h
  | some layout =>
    rw [hlayout] at h
    exact reshaped_of_format h

end Parts

variable {style : Style} {t : Table} {p : Parts}

/-- Formatting a table whose header has cells formats its parts. -/
lemma format_eq (hp : t.parts? = some p) (hcells : p.header.cells ≠ []) :
    t.format style = (p.formatBy style).map fun q => ⟨q.toTable, p.header.marginLeft⟩ := by
  unfold format Parts.formatBy
  cases style.layout.layout? with
  | none => rfl
  | some layout =>
    simp only [formatIn, hp, hcells, if_false]
    cases p.format style layout <;> rfl

/-- A style that formats a table has a layout. -/
lemma exists_layout_of_format {formatted : Formatted} (h : t.format style = .ok formatted) :
    ∃ layout, style.layout.layout? = some layout ∧ t.formatIn style layout = .ok formatted := by
  unfold format at h
  cases hlayout : style.layout.layout? with
  | none => simp [hlayout] at h
  | some layout =>
    rw [hlayout] at h
    exact ⟨layout, rfl, h⟩

/-- What formatting gives: nothing for no rows, bare margins for a header without cells, and
formatted parts for all other tables. -/
lemma format_cases {formatted : Formatted} (h : t.format style = .ok formatted) :
    (t.parts? = none ∧ formatted = ⟨t, []⟩) ∨
      ∃ p, t.parts? = some p ∧
        (p.header.cells = [] ∧
            formatted = ⟨t.collapse p.header.marginLeft, p.header.marginLeft⟩ ∨
          p.header.cells ≠ [] ∧ ∃ q, p.formatBy style = .ok q ∧
            formatted = ⟨q.toTable, p.header.marginLeft⟩) := by
  obtain ⟨layout, -, hin⟩ := exists_layout_of_format h
  cases hp : t.parts? with
  | none =>
    simp only [formatIn, hp] at hin
    exact .inl ⟨rfl, (Except.ok.inj hin).symm⟩
  | some p =>
    refine .inr ⟨p, rfl, ?_⟩
    by_cases hcells : p.header.cells = []
    · simp only [formatIn, hp, hcells, if_true] at hin
      exact .inl ⟨hcells, (Except.ok.inj hin).symm⟩
    · rw [format_eq hp hcells] at h
      obtain ⟨q, hq, hformatted⟩ := exists_of_map_eq_ok h
      exact .inr ⟨hcells, q, hq, hformatted.symm⟩

end Table

end PipeTable
