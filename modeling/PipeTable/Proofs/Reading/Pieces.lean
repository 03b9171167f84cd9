import PipeTable.Proofs.Reading.Reread

/-!
# What becomes of the segments of a line

A row is made of the segments of its line, each of them taken once and as it is: margins and cells
together are the segments in their order (`Row.TakesFrom`).

The main statement, `readRow_accounts_for_line`, adds what is told from this: which lines have no
cells, and where the text of the row differs from the line.  There is a pipe more in front of a line
without a left margin, and a pipe more behind one with cells and without a right margin, and that is
all.  So a line that has all three parts, between the right pipes, is written as it is
(`readRow_of_margins`).
-/

namespace PipeTable

open Segment

variable {rule : MarginRule} {line : Text}

lemma Row.TakesFrom.cells_eq_nil_iff {left right : Option Text} {r : Row}
    (h : r.TakesFrom rule (segments line) left right) :
    r.cells = [] ↔ ∃ s, segments line = [s] ∧ rule.matchesAll s := by
  constructor
  · intro hcells
    obtain ⟨-, hsegments⟩ := h.eq_some_of_noCells hcells
    exact ⟨_, hsegments, h.matchesAll_marginLeft⟩
  · rintro ⟨s, hsegments, hmatches⟩
    have hleft : left.isSome := h.left_iff.2 ⟨s, by rw [hsegments]; rfl, hmatches⟩
    obtain ⟨first, rfl⟩ := Option.isSome_iff_exists.1 hleft
    have hlen := congrArg List.length h.eq
    rw [hsegments, List.length_append, List.length_append, List.length_map] at hlen
    refine List.eq_nil_of_length_eq_zero ?_
    simp only [Option.toList_some, List.length_singleton] at hlen
    omega

/-- A line with both margins and cells between them is written as it is. -/
lemma readRow_of_margins {m w : Text} {cells : List Text}
    (hsegments : segments line = m :: (cells ++ [w])) (hcells : cells ≠ [])
    (hm : rule.matchesAll m) (hw : w.isBlank) :
    readRow rule line = ⟨m, cells.map .mk, w⟩ ∧ (readRow rule line).text = line := by
  have hne : cells.map Cell.mk ≠ [] := by simpa using hcells
  have hpieces : segments line = (Row.mk m (cells.map .mk) w).pieces := by
    simp [hsegments, Row.pieces, Function.comp_def]
  have hread : readRow rule line = ⟨m, cells.map .mk, w⟩ :=
    readRow_of_segments hm hw hne hpieces
  refine ⟨hread, ?_⟩
  rw [hread, Row.text, if_neg hne, ← hpieces, join_segments]

/-- The row that is read from a line accounts for every character of it.  Its margins hold nothing
that does not belong there, it takes all segments of the line, there are no cells exactly if the
line is a single segment that is a left margin, and its text is the line with a pipe more where the
line has none before the first cell or behind the last one. -/
theorem readRow_accounts_for_line (hrule : rule.IsSingle) (line : Text) :
    (∀ c ∈ (readRow rule line).marginLeft,
      isBlankChar c ∨ (rule.chars.hasChar c ∧ isMarkup c = false)) ∧
    (∀ c ∈ (readRow rule line).marginRight, isBlankChar c) ∧
    (∃ left right, (readRow rule line).TakesFrom rule (segments line) left right ∧
      (readRow rule line).text = (if left.isSome then [] else [pipe]) ++ line ++
        if (readRow rule line).cells = [] ∨ right.isSome then [] else [pipe]) ∧
    ((readRow rule line).cells = [] ↔ ∃ s, segments line = [s] ∧ rule.matchesAll s) ∧
    ∀ (m w : Text) (cells : List Text), segments line = m :: (cells ++ [w]) → cells ≠ [] →
      rule.matchesAll m → w.isBlank →
      readRow rule line = ⟨m, cells.map .mk, w⟩ ∧ (readRow rule line).text = line := by
  obtain ⟨left, right, htakes⟩ := readRow_takesFrom rule line
  have hparsed := readRow_isParsed rule line
  refine ⟨fun c hc => ?_, fun c hc => ?_, ⟨left, right, htakes, htakes.text_eq⟩,
    htakes.cells_eq_nil_iff, fun m w cells => readRow_of_margins⟩
  · exact hrule.allows_iff.1 (List.all_eq_true.1 hparsed.marginLeft c hc)
  · exact Text.isBlank_iff.1 hparsed.marginRight c hc

/-- A quoted line with an escaped pipe and blanks behind its last pipe. -/
theorem readRow_accounts_for_line_quoted :
    readRow ⟨.ofList [['>']]⟩ "> |a\\|b| `c|  ".toList =
        ⟨"> ".toList, [⟨"a\\|b".toList⟩, ⟨" `c".toList⟩], "  ".toList⟩ ∧
      (readRow ⟨.ofList [['>']]⟩ "> |a\\|b| `c|  ".toList).text = "> |a\\|b| `c|  ".toList := by
  have hrule : MarginRule.IsSingle ⟨.ofList [['>']]⟩ := by decide
  obtain ⟨-, -, -, -, hverbatim⟩ := readRow_accounts_for_line hrule "> |a\\|b| `c|  ".toList
  exact hverbatim "> ".toList "  ".toList ["a\\|b".toList, " `c".toList] (by decide) (by decide)
    (by decide) (by decide)

/-- A segment alone behind the left margin is a cell, even if it is blank. -/
example : (readRow .blank "| ".toList).text = "| |".toList := by decide

end PipeTable
