import PipeTable.Proofs.Formatting.Reshape

/-!
# Formatting again

A table can be formatted as it stands, with rows of any widths and with or without a delimiter row,
and the result is formatted like the table itself: nothing of the first style is left in it
(`format_format`).  What formatting looks at is kept, as `PipeTable.Proofs.Formatting.Reshape` says;
what is left to show is that the parts of the result are found where those of the table were.  A
second row that was no delimiter row does not become one, because that is told from the contents of
its cells (`Row.isDelimiter_congr`), and a delimiter row stays one if its bars have dashes.
-/

namespace PipeTable

namespace Row

variable {r s : Row}

/-- Whether a row is one of bars is told from the contents of its cells. -/
lemma isDelimiter_congr (h : s.contents = r.contents) : s.isDelimiter = r.isDelimiter := by
  have hcontents (r : Row) : r.isDelimiter =
      (!r.contents.isEmpty && r.contents.all fun t => (Delimiter.ofText? t).isSome) := by
    rw [isDelimiter, contents, List.isEmpty_map, List.all_map]
    rfl
  rw [hcontents, hcontents, h]

/-- All cells of a delimiter row declare an alignment. -/
lemma map_alignment?_of_isDelimiter (h : r.isDelimiter) :
    r.cells.map (·.alignment?) = r.alignments.map some := by
  rw [alignments, List.map_map]
  refine List.map_congr_left fun c hc => ?_
  obtain ⟨d, hd⟩ := Option.isSome_iff_exists.1 ((isDelimiter_iff.1 h).2 c hc)
  simp [Cell.alignment, Cell.alignment?, hd]

end Row

/-! ## Reshaped tables -/

namespace Table

namespace Parts.Reshaped

variable {least : Int} {p q : Parts}

/-- The parts of a table are found again when they are reshaped. -/
lemma parts?_eq (h : p.Reshaped least q) (hleast : 1 ≤ least) {t : Table}
    (hp : t.parts? = some p) : q.toTable.parts? = some q := by
  have hrel := h.delimiter
  cases hd : p.delimiter? with
  | some d =>
    rw [hd] at hrel
    obtain ⟨e, he, hde⟩ := exists_of_rel_left hrel
    have hcells := (Row.isDelimiter_iff.1 (isDelimiter_of_parts? hp hd)).1
    exact parts?_toTable he (hde.isDelimiter hleast hcells)
  | none =>
    rw [hd] at hrel
    refine parts?_toTable_of_none (eq_none_of_rel hrel) fun s hs => ?_
    rw [List.head?_eq_getElem?] at hs
    obtain ⟨r, hr, hrs⟩ := exists_getElem?_of_forall₂ h.body.flip hs
    rw [Row.isDelimiter_congr hrs.contents_eq]
    exact not_isDelimiter_of_parts? hp hd (by rw [List.head?_eq_getElem?, hr])

end Parts.Reshaped

/-- The second table is the first one, formatted with a left margin: it has the same rows and cells
with the same contents, and its delimiter row declares what that of the first one does. -/
structure FormattedTo (margin : Text) (t u : Table) : Prop where
  height_eq : u.height = t.height
  rows_eq : ∀ i r, t.rows[i]? = some r → ∃ s, u.rows[i]? = some s ∧ s.width = r.width ∧
    ((i = 1 → t.delimiterRow? = none) → s.contents = r.contents)
  delimiter_eq : u.delimiterRow?.map (fun d => d.cells.map (·.alignment?)) =
    t.delimiterRow?.map (fun d => d.cells.map (·.alignment?))
  marginLeft_eq : ∀ s ∈ u.rows, s.marginLeft = margin
  marginRight_eq : ∀ s ∈ u.rows, s.marginRight = []

variable {t : Table} {p q : Parts}

namespace Parts.Reshaped

variable {least : Int}

/-- The delimiter row of reshaped parts declares what that of the table does. -/
lemma map_alignment?_eq (h : p.Reshaped least q) (hleast : 1 ≤ least) (hp : t.parts? = some p) :
    q.delimiter?.map (fun d => d.cells.map (·.alignment?)) =
      p.delimiter?.map (fun d => d.cells.map (·.alignment?)) := by
  have hdelimiter := h.delimiter
  cases hd : p.delimiter? with
  | none =>
    rw [hd] at hdelimiter
    rw [eq_none_of_rel hdelimiter]
  | some d =>
    rw [hd] at hdelimiter
    obtain ⟨e, he, hde⟩ := exists_of_rel_left hdelimiter
    rw [he, Option.map_some, Option.map_some, hde.alignment?_eq hleast,
      Row.map_alignment?_of_isDelimiter (isDelimiter_of_parts? hp hd)]

lemma margins_eq (h : p.Reshaped least q) {s : Row} (hs : s ∈ q.toTable.rows) :
    s.marginLeft = p.header.marginLeft ∧ s.marginRight = [] := by
  rcases h.of_mem hs with ⟨r, -, hrs⟩ | ⟨d, -, hds⟩
  · exact ⟨hrs.marginLeft, hrs.marginRight⟩
  · exact ⟨hds.marginLeft, hds.marginRight⟩

lemma formattedTo (h : p.Reshaped least q) (hleast : 1 ≤ least) (hp : t.parts? = some p) :
    t.FormattedTo p.header.marginLeft q.toTable where
  height_eq := by rw [← toTable_of_parts? hp, h.height_eq]
  rows_eq i r hr := by
    rw [← toTable_of_parts? hp] at hr
    obtain ⟨s, hs, hrs⟩ := h.exists_getElem? hr
    refine ⟨s, hs, ?_⟩
    rw [← delimiter?_of_parts? hp]
    split at hrs
    · next hi =>
      refine ⟨hrs.width_eq, fun hcontents => ?_⟩
      rw [hcontents hi.1] at hi
      cases hi.2
    · exact ⟨hrs.width_eq, fun _ => hrs.contents_eq⟩
  delimiter_eq := by
    rw [← delimiter?_of_parts? hp, ← delimiter?_of_parts? (h.parts?_eq hleast hp),
      h.map_alignment?_eq hleast hp]
  marginLeft_eq s hs := (h.margins_eq hs).1
  marginRight_eq s hs := (h.margins_eq hs).2

end Parts.Reshaped

/-! ## Formatting what is formatted -/

/-- A table whose header has no cells is collapsed in every layout. -/
lemma formatIn_of_noCells (hp : t.parts? = some p) (hcells : p.header.cells = []) (style : Style)
    (layout : Layout) : t.formatIn style layout =
      .ok ⟨t.collapse p.header.marginLeft, p.header.marginLeft⟩ := by
  rw [formatIn, hp]
  exact if_pos hcells

/-- A collapsed table is collapsed to itself. -/
lemma format_collapse (hp : t.parts? = some p) (hcells : p.header.cells = []) (style : Style) :
    (t.collapse p.header.marginLeft).format style = t.format style := by
  have hheader : (t.collapse p.header.marginLeft).rows.head? =
      some (.formatted p.header.marginLeft []) := by
    rw [collapse, List.head?_map, header_of_parts? hp]
    rfl
  obtain ⟨p', hp', hp'header⟩ := exists_parts?_of_header hheader
  have hcells' : p'.header.cells = [] := by rw [hp'header]; rfl
  have hmargin : p'.header.marginLeft = p.header.marginLeft := by rw [hp'header]; rfl
  have hcollapse : (t.collapse p.header.marginLeft).collapse p.header.marginLeft =
      t.collapse p.header.marginLeft := by
    rw [collapse, collapse, List.map_map]
    rfl
  unfold format
  cases style.layout.layout? with
  | none => rfl
  | some layout =>
    dsimp only
    rw [formatIn_of_noCells hp hcells, formatIn_of_noCells hp' hcells', hmargin, hcollapse]

/-- Parts that are formatted are formatted like the table that they come from. -/
lemma format_reshaped {least : Int} (h : p.Reshaped least q) (hleast : 1 ≤ least)
    (hp : t.parts? = some p) (hcells : p.header.cells ≠ []) (style : Style) :
    q.toTable.format style = t.format style := by
  have hcells' : q.header.cells ≠ [] := by
    rw [← List.length_pos_iff, ← Row.width, h.header.width_eq]
    exact List.length_pos_iff.2 hcells
  rw [format_eq hp hcells, format_eq (h.parts?_eq hleast hp) hcells', h.header.marginLeft,
    Parts.formatBy_congr style (h.gist_eq hleast)]

end Table

/-- Formatting changes nothing but blanks, dashes and margins, whatever the shape of the table, and
the next style formats the result as it would have formatted the table, or refuses both for the same
fault. -/
theorem format_format {style : Style} {t : Table} {formatted : Formatted}
    (hmin : 1 ≤ style.minDashes) (h : t.format style = .ok formatted) :
    (∀ header, t.rows.head? = some header → header.cells ≠ [] →
      formatted.marginLeft = header.marginLeft ∧
        t.FormattedTo header.marginLeft formatted.table) ∧
    ∀ style' : Style, formatted.table.format style' = t.format style' := by
  rcases Table.format_cases h with ⟨hnone, rfl⟩ | ⟨p, hp, ⟨hcells, rfl⟩ | ⟨hcells, q, hq, rfl⟩⟩
  · refine ⟨fun header hheader => ?_, fun _ => rfl⟩
    obtain ⟨p, hp, -⟩ := Table.exists_parts?_of_header hheader
    rw [hnone] at hp
    cases hp
  · refine ⟨fun header hheader hne => ?_, Table.format_collapse hp hcells⟩
    rw [Table.header_of_parts? hp] at hheader
    cases hheader
    exact absurd hcells hne
  · have hreshaped := Table.Parts.reshaped_of_formatBy hq
    refine ⟨fun header hheader _ => ?_, Table.format_reshaped hreshaped hmin hp hcells⟩
    rw [Table.header_of_parts? hp] at hheader
    cases hheader
    exact ⟨rfl, hreshaped.formattedTo hmin hp⟩

/-- A ragged table, whose delimiter row ends after the first column, is formatted in the normal
layout and then in the weak one. -/
theorem format_format_ragged :
    ∃ t formatted weak,
      t = Table.mk [⟨"> ".toList, [⟨"あ".toList⟩, ⟨" b".toList⟩], "x".toList⟩,
        ⟨[], [⟨":-".toList⟩], "  ".toList⟩,
        ⟨[], [⟨"c".toList⟩, ⟨"dd".toList⟩, ⟨[]⟩], []⟩] ∧
      t.format .standard = .ok formatted ∧ t.FormattedTo "> ".toList formatted.table ∧
      formatted.table.lines =
        ["> | あ  | b  |".toList, "> |:--- |".toList, "> | c   | dd |  |".toList] ∧
      formatted.table.format { Style.standard with layout := .choice (.layout .weak) } =
        .ok weak ∧
      weak.table.lines =
        ["> | あ | b |".toList, "> |:--- |".toList, "> | c | dd |  |".toList] := by
  have h : (Table.mk [⟨"> ".toList, [⟨"あ".toList⟩, ⟨" b".toList⟩], "x".toList⟩,
      ⟨[], [⟨":-".toList⟩], "  ".toList⟩,
      ⟨[], [⟨"c".toList⟩, ⟨"dd".toList⟩, ⟨[]⟩], []⟩]).format .standard =
      .ok ⟨⟨[⟨"> ".toList, [⟨" あ  ".toList⟩, ⟨" b  ".toList⟩], []⟩,
        ⟨"> ".toList, [⟨":--- ".toList⟩], []⟩,
        ⟨"> ".toList, [⟨" c   ".toList⟩, ⟨" dd ".toList⟩, ⟨"  ".toList⟩], []⟩]⟩, "> ".toList⟩ := rfl
  obtain ⟨hkeeps, hagain⟩ := format_format (by decide) h
  obtain ⟨-, hformatted⟩ := hkeeps _ rfl (List.cons_ne_nil _ _)
  have hweak := hagain { Style.standard with layout := .choice (.layout .weak) }
  exact ⟨_, _, _, rfl, h, hformatted, rfl, hweak, rfl⟩

end PipeTable
