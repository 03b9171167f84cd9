import PipeTable.Proofs.Formatting.Faults
import PipeTable.Proofs.Reformat.Lines

/-!
# What reformatting refuses

Reading refuses nothing, and a table with a header can be completed, so all that is left to refuse
lines for is what their completed table is refused for when it is formatted
(`reformat_eq_error_iff`).  Lines without a header with cells are never refused, not even in a style
without a layout.  The main statement, `refuses_iff`, is about tables and lines together.
-/

namespace PipeTable

/-- That there is no header is never a reason to refuse a table. -/
lemma Table.RefusedFor.ne_emptyTable {style : Style} {t : Table} {fault : Fault}
    (h : t.RefusedFor style fault) (wording : Text) : fault ≠ .emptyTable wording := by
  rintro rfl
  cases h

section
variable {style : Style} {rule : MarginRule} {firstLine : Int} {lines : List Text}
  {cursor? : Option Point} {fault : Fault}

/-- Tidying a table with a header is refused for what formatting the completed table is. -/
lemma Table.tidy_eq_error_iff {t : Table} {p : Table.Parts} (hp : t.parts? = some p) :
    t.tidy style = .error fault ↔
      ∃ completed, t.complete style = .ok completed ∧
        completed.table.format style = .error fault := by
  have hcompleted := Table.complete_eq_of_parts? style hp
  rw [Table.tidy, bind_eq_error_iff]
  constructor
  · rintro (herror | ⟨completed, hok, hrest⟩)
    · rw [hcompleted] at herror
      cases herror
    · refine ⟨completed, hok, ?_⟩
      rcases bind_eq_error_iff.1 hrest with hformat | ⟨formatted, -, hpure⟩
      · exact hformat
      · cases hpure
  · rintro ⟨completed, hok, hformat⟩
    exact .inr ⟨completed, hok, bind_eq_error_iff.2 (.inl hformat)⟩

lemma reformat_eq_error_iff :
    reformat style rule firstLine lines cursor? = .error fault ↔
      ∃ header completed, (readTable rule lines).rows.head? = some header ∧ header.cells ≠ [] ∧
        (readTable rule lines).complete style = .ok completed ∧
        completed.table.format style = .error fault := by
  cases lines with
  | nil =>
    rw [reformat_nil]
    constructor
    · intro h
      cases h
    · rintro ⟨header, completed, hheader, -⟩
      cases hheader
  | cons line rest =>
    obtain ⟨p, hp⟩ := Table.exists_parts?_eq (t := readTable rule (line :: rest))
      (List.cons_ne_nil _ _)
    rw [Table.header_of_parts? hp]
    by_cases hcells : p.header.cells = []
    · rw [reformat_of_noCells hp hcells]
      constructor
      · intro h
        cases h
      · rintro ⟨header, completed, hheader, hne, -⟩
        exact absurd (Option.some.inj hheader ▸ hcells) hne
    · rw [reformat_of_cells hp hcells, map_eq_error_iff, Table.tidy_eq_error_iff hp]
      constructor
      · rintro ⟨completed, hok, hformat⟩
        exact ⟨p.header, completed, rfl, hcells, hok, hformat⟩
      · rintro ⟨header, completed, -, -, hok, hformat⟩
        exact ⟨completed, hok, hformat⟩

end

/-- Formatting refuses a table exactly for the reasons that a style gives, and formats every other
one.  Reformatting refuses lines exactly if their header has cells and their completed table is
refused, for the same fault, and it never misses a header. -/
theorem refuses_iff (style : Style) :
    (∀ t : Table,
      (∀ fault, t.format style = .error fault ↔ t.RefusedFor style fault) ∧
      ((∃ formatted, t.format style = .ok formatted) ↔ ∀ fault, ¬ t.RefusedFor style fault)) ∧
    ∀ (rule : MarginRule) (firstLine : Int) (lines : List Text) (cursor? : Option Point),
      (∀ fault, reformat style rule firstLine lines cursor? = .error fault ↔
        ∃ header completed, (readTable rule lines).rows.head? = some header ∧ header.cells ≠ [] ∧
          (readTable rule lines).complete style = .ok completed ∧
          completed.table.format style = .error fault) ∧
      ∀ wording, reformat style rule firstLine lines cursor? ≠ .error (.emptyTable wording) := by
  refine ⟨fun t => ⟨fun fault => Table.format_eq_error_iff, ?_⟩, fun rule firstLine lines cursor? =>
    ⟨fun fault => reformat_eq_error_iff, fun wording hempty => ?_⟩⟩
  · constructor
    · rintro ⟨formatted, hok⟩ fault hrefused
      rw [Table.format_eq_error_iff.2 hrefused] at hok
      cases hok
    · intro hnone
      cases hformat : t.format style with
      | error fault => exact absurd (Table.format_eq_error_iff.1 hformat) (hnone fault)
      | ok formatted => exact ⟨formatted, rfl⟩
  · obtain ⟨header, completed, -, -, -, hformat⟩ := reformat_eq_error_iff.1 hempty
    exact (Table.format_eq_error_iff.1 hformat).ne_emptyTable wording rfl

end PipeTable
