import PipeTable.Proofs.Completion
import PipeTable.Proofs.Formatting.Reshape
import PipeTable.Reformat

/-!
# Tidied tables

To tidy a table is to complete and to format it.  `Parts.tidyParts` does both on the parts of a
table, and `tidy_eq` says that this is all that happens to a table whose header has cells.  What is
known of such a table and of the parts that become of it is collected under `Tidying`: every row of
the result has the width of the table, the left margin of the header, no right margin and no cell
without text (`Row.IsTidy`), it is read back from its text (`Tidying.readable`), and the result has
the gist of the completed table, whatever the style (`Tidying.gist_eq`).  So nothing of the style is
left in what can be tidied again, which is `Tidying.tidyParts_eq`.
-/

namespace PipeTable

open Segment Text

/-! ## Rows -/

namespace Row

/-- A row as tidying leaves it. -/
structure IsTidy (margin : Text) (width : Nat) (r : Row) : Prop where
  marginLeft : r.marginLeft = margin
  marginRight : r.marginRight = []
  width_eq : r.width = width
  ne_nil : ∀ c ∈ r.cells, c.raw ≠ []

section
variable {margin : Text} {least : Int} {rule : MarginRule} {r s : Row}

lemma Refilled.isTidy (h : Refilled margin r s) : s.IsTidy margin r.width := by
  refine ⟨h.marginLeft, h.marginRight, h.width_eq, ?_⟩
  intro d hd
  obtain ⟨c, -, hcd⟩ := exists_mem_of_forall₂ h.cells hd
  exact hcd.ne_nil

/-- The blanks that formatting puts behind a content make the cells readable. -/
lemma Refilled.readable (h : Refilled margin r s) (hr : r.IsParsed rule)
    (hmargin : rule.matchesAll margin) : s.Readable rule := by
  have hcells : Intact (s.cells.map (·.raw)) := by
    have hbefore : Intact ((r.cells.map (·.raw)).map (· ++ [' '])) := by
      rw [List.map_map]
      exact hr.cells
    refine hbefore.repad ?_
    rw [List.forall₂_map_left_iff, List.forall₂_map_right_iff]
    exact h.cells
  refine ⟨?_, ?_, hcells, fun _ => h.marginRight⟩
  · rwa [h.marginLeft]
  · rw [h.marginRight]
    rfl

lemma Rebarred.isTidy (h : Rebarred least margin r s) : s.IsTidy margin r.width := by
  refine ⟨h.marginLeft, h.marginRight, h.width_eq, ?_⟩
  intro d hd
  obtain ⟨c, -, dashes, -, hraw⟩ := exists_mem_of_forall₂ h.cells hd
  rw [hraw]
  exact List.cons_ne_nil _ _

lemma Rebarred.readable (h : Rebarred least margin r s) (hmargin : rule.matchesAll margin) :
    s.Readable rule := by
  refine ⟨?_, ?_, ?_, fun _ => h.marginRight⟩
  · rwa [h.marginLeft]
  · rw [h.marginRight]
    rfl
  · refine Intact.of_isPlain ?_
    intro q hq
    obtain ⟨d, hd, rfl⟩ := List.mem_map.1 hq
    obtain ⟨c, -, dashes, -, hraw⟩ := exists_mem_of_forall₂ h.cells hd
    rw [hraw]
    exact isPlain_delimiterText c.alignment dashes

end

end Row

/-! ## Tables -/

namespace Table

/-- Completes parts to a width and formats them. -/
def Parts.tidyParts (style : Style) (width : Nat) (p : Parts) : Except Fault Parts :=
  (p.complete style width).formatBy style

section
variable {style : Style} {t : Table} {p : Parts}

lemma width_pos_of_header (hp : t.parts? = some p) (hcells : p.header.cells ≠ []) :
    0 < t.width := by
  have hle : p.header.width ≤ t.width := by
    rw [← toTable_of_parts? hp]
    exact Parts.width_le_of_mem (.inl rfl)
  exact Nat.lt_of_lt_of_le (List.length_pos_iff.2 hcells) hle

/-- The delimiter row of a completed table is one, so the completed parts are found again. -/
lemma exists_completed_delimiter (hmin : 1 ≤ style.minDashes) (hp : t.parts? = some p)
    (hcells : p.header.cells ≠ []) :
    ∃ d, (p.complete style t.width).delimiter? = some d ∧ d.isDelimiter := by
  refine Parts.exists_delimiter_complete hmin (width_pos_of_header hp hcells) ?_
  intro d hd
  exact isDelimiter_of_parts? hp hd

/-- Formatting the completed table formats its parts. -/
lemma format_complete_eq (hmin : 1 ≤ style.minDashes) (hp : t.parts? = some p)
    (hcells : p.header.cells ≠ []) :
    (p.complete style t.width).toTable.format style =
      (p.tidyParts style t.width).map fun q => ⟨q.toTable, p.header.marginLeft⟩ := by
  have hheader : (p.complete style t.width).header.cells ≠ [] := by
    rw [Parts.complete, Row.complete, Row.cells_extendTo]
    exact List.append_ne_nil_of_left_ne_nil hcells _
  obtain ⟨d, hd, hdelimiter⟩ := exists_completed_delimiter hmin hp hcells
  rw [format_eq (parts?_toTable hd hdelimiter) hheader, Parts.marginLeft_complete,
    Parts.tidyParts]

/-- Tidying a table whose header has cells completes its parts and formats them. -/
lemma tidy_eq (hmin : 1 ≤ style.minDashes) (hp : t.parts? = some p)
    (hcells : p.header.cells ≠ []) :
    t.tidy style = (p.tidyParts style t.width).map fun q =>
      ⟨q.toTable, p.header.marginLeft, p.delimiter?.isNone⟩ := by
  unfold tidy
  rw [complete_eq_of_parts? style hp]
  show (do
    let formatted ← (p.complete style t.width).toTable.format style
    return _) = _
  rw [format_complete_eq hmin hp hcells]
  cases p.tidyParts style t.width <;> rfl

end

/-! ## Tidied parts -/

/-- The second parts are what becomes of the first ones, which are those of a table whose header has
cells. -/
structure Tidying (style : Style) (t : Table) (p q : Parts) : Prop where
  minDashes : 1 ≤ style.minDashes
  parts : t.parts? = some p
  header : p.header.cells ≠ []
  tidied : p.tidyParts style t.width = .ok q

namespace Tidying

variable {style : Style} {rule : MarginRule} {t : Table} {p q : Parts}

lemma width_pos (h : t.Tidying style p q) : 0 < t.width := width_pos_of_header h.parts h.header

lemma reshaped (h : t.Tidying style p q) :
    (p.complete style t.width).Reshaped style.minDashes q :=
  Parts.reshaped_of_formatBy h.tidied

lemma isTidy (h : t.Tidying style p q) :
    ∀ s ∈ q.toTable.rows, s.IsTidy p.header.marginLeft t.width := by
  have hwidth : ∀ r ∈ (p.complete style t.width).toTable.rows, r.width = t.width := by
    intro r hr
    refine Parts.width_of_mem_complete ?_ hr
    intro r' hr'
    rw [toTable_of_parts? h.parts] at hr'
    exact width_le hr'
  have hmargin := Parts.marginLeft_complete style t.width p
  intro s hs
  rcases h.reshaped.of_mem hs with ⟨r, hr, hrs⟩ | ⟨d, hd, hds⟩
  · rw [← hwidth r (Parts.mem_toTable_of_mem_contentRows hr), ← hmargin]
    exact hrs.isTidy
  · rw [← hwidth d (Parts.mem_toTable.2 (.inr (.inl hd))), ← hmargin]
    exact hds.isTidy

lemma gist_eq (h : t.Tidying style p q) : q.gist = (p.complete style t.width).gist :=
  h.reshaped.gist_eq h.minDashes

/-- Tidied parts have a delimiter row, which declares what the old one did and nothing else. -/
lemma exists_delimiter (h : t.Tidying style p q) :
    ∃ d, q.delimiter? = some d ∧ d.isDelimiter ∧
      d.cells.map (·.alignment?) = (p.completeAlignments t.width).map some := by
  obtain ⟨b, hb, hdelimiter⟩ := exists_completed_delimiter h.minDashes h.parts h.header
  have hrel := h.reshaped.delimiter
  rw [hb] at hrel
  obtain ⟨d, hd, hbd⟩ := exists_of_rel_left hrel
  have hgist : b.alignments = p.completeAlignments t.width := by
    have halign := congrArg Gist.alignments? (Parts.gist_complete style t.width p)
    rw [Parts.gist, hb] at halign
    exact Option.some.inj halign
  refine ⟨d, hd, hbd.isDelimiter h.minDashes (Row.isDelimiter_iff.1 hdelimiter).1, ?_⟩
  rw [hbd.alignment?_eq h.minDashes, hgist]

lemma parts?_eq (h : t.Tidying style p q) : q.toTable.parts? = some q := by
  obtain ⟨d, hd, hdelimiter, -⟩ := h.exists_delimiter
  exact parts?_toTable hd hdelimiter

lemma width_eq (h : t.Tidying style p q) : q.toTable.width = t.width := by
  refine width_eq_of_forall (List.cons_ne_nil _ _) ?_
  intro s hs
  exact (h.isTidy s hs).width_eq

lemma height_eq (h : t.Tidying style p q) :
    q.toTable.height = t.height + if p.delimiter?.isNone then 1 else 0 := by
  obtain ⟨d, hd, -, -⟩ := h.exists_delimiter
  have hbody : q.body.length = p.body.length := by
    have hlen := h.reshaped.body.length_eq
    rw [Parts.complete, List.length_map] at hlen
    exact hlen.symm
  rw [Parts.height_toTable, hd, hbody, ← toTable_of_parts? h.parts, Parts.height_toTable]
  cases p.delimiter? with
  | none => exact Nat.add_right_comm 1 1 p.body.length
  | some e => rfl

/-- What was read from lines can be read again when it is tidied. -/
lemma readable (h : t.Tidying style p q) (hparsed : ∀ r ∈ t.rows, r.IsParsed rule) :
    ∀ s ∈ q.toTable.rows, s.Readable rule := by
  have hrow : ∀ r ∈ p.contentRows, r.IsParsed rule := by
    intro r hr
    apply hparsed
    rw [← toTable_of_parts? h.parts]
    exact Parts.mem_toTable_of_mem_contentRows hr
  have hmargin : rule.matchesAll (p.complete style t.width).header.marginLeft := by
    rw [Parts.marginLeft_complete]
    exact (hrow p.header List.mem_cons_self).marginLeft
  intro s hs
  rcases h.reshaped.of_mem hs with ⟨r, hr, hrs⟩ | ⟨d, -, hds⟩
  · have hcomplete : (p.complete style t.width).contentRows =
        p.contentRows.map (Row.complete t.width) := rfl
    rw [hcomplete] at hr
    obtain ⟨r', hr', rfl⟩ := List.mem_map.1 hr
    exact hrs.readable ((hrow r' hr').complete t.width) hmargin
  · exact hds.readable hmargin

/-- Tidying again in any style is tidying in that style right away. -/
lemma tidyParts_eq (h : t.Tidying style p q) (style' : Style) :
    q.tidyParts style' t.width = p.tidyParts style' t.width := by
  obtain ⟨d, hd, -, -⟩ := h.exists_delimiter
  have hcomplete : q.complete style' t.width = q := by
    refine Parts.complete_of_width_le hd ?_ style'
    intro s hs
    exact Nat.le_of_eq (h.isTidy s hs).width_eq.symm
  have hgist : q.gist = (p.complete style' t.width).gist := by
    calc
      q.gist = (p.complete style t.width).gist := h.gist_eq
      _ = (p.complete style' t.width).gist := by
        rw [Parts.gist_complete, Parts.gist_complete]
  rw [Parts.tidyParts, Parts.tidyParts, hcomplete, Parts.formatBy_congr style' hgist]

end Tidying

end Table

end PipeTable
