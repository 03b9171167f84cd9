import PipeTable.Proofs.Quoting.Cursor
import PipeTable.Proofs.Reformat.Cursor

/-!
# Reformatting quoted lines

Reformatting commutes with quoting: lines in a block quote are reformatted to the quoted lines that
they are reformatted to without it (`reformat_quoted`).  This needs every line to begin with a left
margin, and the quote to be made of characters that may stand in one.  Then the quote is more of the
same margin, which tidying carries along without looking at it, and a cursor behind the margin moves
with the text.
-/

namespace PipeTable

open Segment

variable {rule : MarginRule} {firstLine : Int} {lines : List Text} {cursor? cursor'? : Option Point}
  {m : Text}

/-! ## Cursors -/

/-- A cursor that is on none of the rows of a table, or behind the left margin of its row. -/
def Table.PastMargin (t : Table) (firstLine : Int) (cursor? : Option Point) : Prop :=
  ∀ point ∈ cursor?, ∀ r, t.row? (point.row - firstLine) = some r →
    r.marginLeft.length < point.column

namespace Table

variable {t : Table}

/-- The cursor moves with the text to the same focus. -/
lemma PastMargin.bind_focusOf?_eq (h : t.PastMargin firstLine cursor?) (m : Text) :
    (cursor?.map (Point.shifted m.length)).bind ((t.quoted m).focusOf? · firstLine) =
      cursor?.bind (t.focusOf? · firstLine) := by
  cases cursor? with
  | none => rfl
  | some point => exact focusOf?_quoted m (h point rfl)

/-- The focus of the cursor is on a cell or on the right margin, so it goes where the text goes. -/
lemma PastMargin.bind_pointOf?_eq (h : t.PastMargin firstLine cursor?) (m : Text) (u : Table)
    (delimiterInserted : Bool) :
    ((cursor?.bind (t.focusOf? · firstLine)).bind fun f =>
        (u.quoted m).pointOf? (f.afterInsertion delimiterInserted) firstLine) =
      ((cursor?.bind (t.focusOf? · firstLine)).bind fun f =>
          u.pointOf? (f.afterInsertion delimiterInserted) firstLine).map
        (Point.shifted m.length) := by
  rw [Option.map_bind]
  refine Option.bind_congr fun f hf => ?_
  obtain ⟨point, rfl, hpoint⟩ := Option.bind_eq_some_iff.1 hf
  have hcolumn : 0 ≤ f.column := column_nonneg_of_focusOf? (h point rfl) hpoint
  rw [← Focus.column_afterInsertion delimiterInserted] at hcolumn
  exact pointOf?_quoted m hcolumn firstLine

end Table

/-! ## Lines -/

/-- Reformatting quoted lines fails like reformatting the lines, and otherwise gives the quoted
lines of the result. -/
theorem reformat_quoted (style : Style) (hrule : rule.IsSingle)
    (hm : ∀ c ∈ m, isBlankChar c ∨ (rule.chars.hasChar c ∧ isMarkup c = false))
    (hlines : ∀ line ∈ lines, ∀ first ∈ (segments line).head?, rule.matchesAll first)
    (firstLine : Int) (cursor? cursor'? : Option Point) :
    (∀ fault, reformat style rule firstLine (lines.map (m ++ ·)) cursor'? = .error fault ↔
      reformat style rule firstLine lines cursor? = .error fault) ∧
    ∀ result, reformat style rule firstLine lines cursor? = .ok result →
      ∃ result', reformat style rule firstLine (lines.map (m ++ ·)) cursor'? = .ok result' ∧
        result'.lines = result.lines.map (m ++ ·) ∧
        result'.delimiterInserted = result.delimiterInserted ∧
        (lines ≠ [] → result'.marginLeft = m ++ result.marginLeft) ∧
        ((readTable rule lines).PastMargin firstLine cursor? →
          cursor'? = cursor?.map (Point.shifted m.length) →
          result'.cursor? = result.cursor?.map (Point.shifted m.length)) := by
  have hmatches : rule.matchesAll m :=
    List.all_eq_true.2 fun c hc => hrule.allows_iff.2 (hm c hc)
  have hread := readTable_quoted hrule hmatches hlines
  have hparts := Table.parts?_quoted m (readTable rule lines)
  rw [← hread] at hparts
  by_cases hnil : lines = []
  · subst hnil
    rw [List.map_nil, reformat_nil, reformat_nil]
    refine ⟨fun fault => Iff.rfl, ?_⟩
    rintro result ⟨⟩
    exact ⟨_, rfl, rfl, rfl, fun hne => absurd rfl hne, fun _ _ => rfl⟩
  · obtain ⟨p, hp⟩ := Table.exists_parts?_eq (t := readTable rule lines) (by simpa [readTable])
    rw [hp, Option.map_some] at hparts
    by_cases hcells : p.header.cells = []
    · rw [reformat_of_noCells hp hcells, reformat_of_noCells hparts hcells]
      refine ⟨fun fault => by constructor <;> (intro h; cases h), ?_⟩
      rintro result ⟨⟩
      refine ⟨_, rfl, rfl, rfl, fun _ => rfl, ?_⟩
      rintro hpast rfl
      dsimp only
      rw [hread, hpast.bind_focusOf?_eq]
      split <;> rfl
    · have hcells' : (p.quoted m).header.cells ≠ [] := hcells
      rw [reformat_of_cells hp hcells, reformat_of_cells hparts hcells', hread]
      refine related_of_map (Table.tidy_quoted m style (readTable rule lines)) fun tidied => ?_
      refine ⟨Table.lines_quoted m tidied.table, rfl, fun _ => rfl, ?_⟩
      rintro hpast rfl
      dsimp only
      rw [hpast.bind_focusOf?_eq, hpast.bind_pointOf?_eq]

set_option maxRecDepth 4000 in
/-- A quoted table with a blank line is quoted again, the cursor in its last line. -/
theorem reformat_quoted_twice :
    ∃ result',
      reformat .standard ⟨.ofList [['>']]⟩ 2
        (["> |a|`b|c`".toList, "".toList, "|d".toList].map (">  ".toList ++ ·))
        (some ⟨4, 5⟩) = .ok result' ∧
      result'.lines =
        [">  > | a   | `b|c` |".toList, ">  > | --- | ----- |".toList,
          ">  > |     |       |".toList, ">  > | d   |       |".toList] ∧
      result'.marginLeft = ">  > ".toList ∧ result'.cursor? = some ⟨5, 11⟩ := by
  have h : reformat .standard ⟨.ofList [['>']]⟩ 2
      ["> |a|`b|c`".toList, "".toList, "|d".toList] (some ⟨4, 2⟩) =
      .ok ⟨["> | a   | `b|c` |".toList, "> | --- | ----- |".toList, "> |     |       |".toList,
        "> | d   |       |".toList], some ⟨5, 8⟩, "> ".toList, true⟩ := rfl
  have hpast : (readTable ⟨.ofList [['>']]⟩
      ["> |a|`b|c`".toList, "".toList, "|d".toList]).PastMargin 2 (some ⟨4, 2⟩) := by
    rintro point ⟨⟩ r ⟨⟩
    decide
  have hrule : MarginRule.IsSingle ⟨.ofList [['>']]⟩ := by decide
  have hquote : MarginRule.matchesAll ⟨.ofList [['>']]⟩ ">  ".toList := by decide
  obtain ⟨result', hresult, hlines, -, hmargin, hcursor⟩ :=
    (reformat_quoted .standard hrule
      (fun c hc => hrule.allows_iff.1 (List.all_eq_true.1 hquote c hc)) (by decide) 2
      (some ⟨4, 2⟩) (some ⟨4, 5⟩)).2 _ h
  exact ⟨result', hresult, hlines, hmargin (List.cons_ne_nil _ _), hcursor hpast rfl⟩

end PipeTable
