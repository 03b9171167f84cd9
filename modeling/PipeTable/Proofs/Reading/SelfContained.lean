import PipeTable.Proofs.Completion
import PipeTable.Proofs.Formatting.Reshape
import PipeTable.Proofs.Reading.Readable

/-!
# Self-contained tables

A cell that was not read from a line may hold any text, and not every text comes back: a pipe would
split it, and an open run of backticks or a backslash at its end would reach into the next cell.
Self-contained cells have none of these, so they stay apart in any company, and a table of them with
margins that are margins is read back from its lines (`Table.IsSelfContained.readTable_lines`).

Being self-contained is a matter of single cells, unlike `Row.Readable`, where a run of backticks
may stay open as long as no later cell closes it.  That is why operations that bring cells together
keep it.
-/

namespace PipeTable

open Segment Text

/-! ## Cells -/

/-- A cell whose text alone, scanned as a line is, meets no pipe that splits, no run of backticks
that nothing closes, and no backslash at its end that escapes nothing. -/
def Cell.IsSelfContained (c : Cell) : Prop := isWhole (fun _ => true) 0 c.raw

instance : DecidablePred Cell.IsSelfContained := fun c =>
  inferInstanceAs (Decidable (isWhole (fun _ => true) 0 c.raw = true))

namespace Cell

/-- The self-contained cells are those that stay apart from whatever follows their pipe. -/
lemma isSelfContained_iff {c : Cell} : c.IsSelfContained ↔
    ∀ rest, segments (c.raw ++ pipe :: rest) = c.raw :: segments rest :=
  isWhole_iff_segments

lemma isSelfContained_of_isBlank {t : Text} (h : t.isBlank) : (Cell.mk t).IsSelfContained :=
  (isPlain_of_isBlank h).isWhole

lemma isSelfContained_empty : Cell.empty.IsSelfContained := isSelfContained_of_isBlank rfl

lemma isSelfContained_delimiterText (a : Alignment) (dashes : Int) :
    (Cell.mk (delimiterText a dashes)).IsSelfContained :=
  (isPlain_delimiterText a dashes).isWhole

/-- Other blanks around the content of a cell do no harm, even where its last blank was escaped. -/
lemma IsSelfContained.repad {c d : Cell} (h : c.IsSelfContained) (hcd : Repads c.raw d.raw) :
    d.IsSelfContained :=
  isWhole_repad (isWhole_append_space h) hcd

end Cell

/-! ## Rows -/

/-- A row of self-contained cells between margins: on the left blanks and characters of the rule
that are no markup, on the right blanks, and nothing on the right if there are no cells. -/
structure Row.IsSelfContained (rule : MarginRule) (r : Row) : Prop where
  marginLeft : ∀ c ∈ r.marginLeft, isBlankChar c ∨ (rule.chars.hasChar c ∧ isMarkup c = false)
  marginRight : r.marginRight.isBlank
  cells : ∀ c ∈ r.cells, c.IsSelfContained
  noCells : r.cells = [] → r.marginRight = []

instance (rule : MarginRule) : DecidablePred (Row.IsSelfContained rule) := fun r =>
  have : Decidable (∀ c ∈ r.marginLeft,
      isBlankChar c ∨ (rule.chars.hasChar c ∧ isMarkup c = false)) := List.decidableBAll _ _
  have : Decidable (∀ c ∈ r.cells, c.IsSelfContained) := List.decidableBAll _ _
  decidable_of_iff
    ((∀ c ∈ r.marginLeft, isBlankChar c ∨ (rule.chars.hasChar c ∧ isMarkup c = false)) ∧
      r.marginRight.isBlank ∧ (∀ c ∈ r.cells, c.IsSelfContained) ∧
      (r.cells = [] → r.marginRight = []))
    ⟨fun ⟨hleft, hright, hcells, hnone⟩ => ⟨hleft, hright, hcells, hnone⟩,
      fun h => ⟨h.marginLeft, h.marginRight, h.cells, h.noCells⟩⟩

namespace Row

variable {rule : MarginRule} {r s : Row}

lemma IsSelfContained.readable (hrule : rule.IsSingle) (h : r.IsSelfContained rule) :
    r.Readable rule := by
  refine ⟨?_, h.marginRight, Intact.of_isWhole ?_, h.noCells⟩
  · exact List.all_eq_true.2 fun c hc => hrule.allows_iff.2 (h.marginLeft c hc)
  · intro t ht
    obtain ⟨c, hc, rfl⟩ := List.mem_map.1 ht
    exact h.cells c hc

/-- Cells may be exchanged for others, as long as they do not all go away. -/
lemma IsSelfContained.withCells (h : r.IsSelfContained rule) {cells : List Cell}
    (hcells : ∀ c ∈ cells, c.IsSelfContained) (hlen : cells.length = 0 → r.cells.length = 0) :
    (r.withCells cells).IsSelfContained rule := by
  refine ⟨h.marginLeft, h.marginRight, hcells, ?_⟩
  intro hnil
  exact h.noCells (List.eq_nil_of_length_eq_zero (hlen (congrArg List.length hnil)))

lemma isSelfContained_bars (style : Style) (width : Nat) :
    (bars style width).IsSelfContained rule := by
  refine ⟨fun c hc => absurd hc List.not_mem_nil, rfl, fun c hc => ?_, fun _ => rfl⟩
  rw [List.eq_of_mem_replicate hc]
  exact Cell.isSelfContained_delimiterText .unset _

/-! ### Completing and formatting -/

lemma IsSelfContained.extendTo (h : r.IsSelfContained rule) {fill : Nat → Cell}
    (hfill : ∀ column, (fill column).IsSelfContained) (width : Nat) :
    (r.extendTo width fill).IsSelfContained rule := by
  unfold Row.extendTo
  split
  · exact h
  · exact ⟨h.marginLeft, rfl, Sequence.forall_mem_extend h.cells hfill width, fun _ => rfl⟩

lemma IsSelfContained.complete (h : r.IsSelfContained rule) (width : Nat) :
    (r.complete width).IsSelfContained rule := by
  refine h.extendTo (fun column => ?_) width
  split
  · exact Cell.isSelfContained_of_isBlank h.marginRight
  · exact Cell.isSelfContained_empty

lemma IsSelfContained.completeBars (h : r.IsSelfContained rule) (style : Style) (width : Nat) :
    (r.completeBars style width).IsSelfContained rule := by
  refine h.extendTo (fun column => ?_) width
  split <;> exact Cell.isSelfContained_delimiterText .unset _

/-- A formatted row takes the left margin from another row. -/
lemma isSelfContained_of_cells (h : r.IsSelfContained rule) (hleft : s.marginLeft = r.marginLeft)
    (hright : s.marginRight = []) (hcells : ∀ c ∈ s.cells, c.IsSelfContained) :
    s.IsSelfContained rule := by
  refine ⟨?_, ?_, hcells, fun _ => hright⟩
  · rw [hleft]
    exact h.marginLeft
  · rw [hright]
    rfl

lemma Refilled.isSelfContained {header : Row} (h : Refilled header.marginLeft r s)
    (hheader : header.IsSelfContained rule) (hr : r.IsSelfContained rule) :
    s.IsSelfContained rule := by
  refine isSelfContained_of_cells hheader h.marginLeft h.marginRight ?_
  intro d hd
  obtain ⟨c, hc, hcd⟩ := exists_mem_of_forall₂ h.cells hd
  exact (hr.cells c hc).repad hcd

lemma Rebarred.isSelfContained {least : Int} {header : Row}
    (h : Rebarred least header.marginLeft r s) (hheader : header.IsSelfContained rule) :
    s.IsSelfContained rule := by
  refine isSelfContained_of_cells hheader h.marginLeft h.marginRight ?_
  intro d hd
  obtain ⟨c, -, dashes, -, hraw⟩ := exists_mem_of_forall₂ h.cells hd
  obtain ⟨raw⟩ := d
  obtain rfl : raw = delimiterText c.alignment dashes := hraw
  exact Cell.isSelfContained_delimiterText c.alignment dashes

end Row

/-! ## Tables -/

/-- A table of self-contained rows. -/
def Table.IsSelfContained (rule : MarginRule) (t : Table) : Prop :=
  ∀ r ∈ t.rows, r.IsSelfContained rule

instance (rule : MarginRule) : DecidablePred (Table.IsSelfContained rule) := fun t =>
  List.decidableBAll _ t.rows

/-- A self-contained table is read back from its lines as it was. -/
lemma Table.IsSelfContained.readTable_lines {rule : MarginRule} (hrule : rule.IsSingle) {t : Table}
    (h : t.IsSelfContained rule) : readTable rule t.lines = t :=
  PipeTable.readTable_lines hrule fun r hr => (h r hr).readable hrule

end PipeTable
