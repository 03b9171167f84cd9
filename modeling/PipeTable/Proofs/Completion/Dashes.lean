import PipeTable.Proofs.Edit.Complete

/-!
# Bars without dashes

The least number of dashes is a number that a style may give freely, and none of the bars that
completion adds has more unless there was room for it in the right margin.  A bar without dashes is
no delimiter cell.  So a style may ask for bars that completion does not recognise itself, and a
table that needs any of them has no delimiter row when it is completed: the next completion finds
it missing again.

`Table.GetsDashes` says of a table and a style that this does not happen.  The main statement,
`complete_complete_iff`, is that completing again adds nothing exactly in that case.  In every other
case each completion adds one row more, without an end (`Table.IsUnmarked.height_applyAll`).
-/

namespace PipeTable

variable {style : Style}

/-! ## Rows of bars -/

namespace Row

lemma isDelimiter_bars_iff {width : Nat} (h : 0 < width) :
    (bars style width).isDelimiter ↔ 1 ≤ style.minDashes := by
  refine ⟨fun hbars => ?_, fun hmin => isDelimiter_bars hmin h⟩
  have hmem : Cell.bar style.minDashes ∈ (bars style width).cells :=
    List.mem_replicate.2 ⟨Nat.ne_of_gt h, rfl⟩
  exact (Cell.isDelimiter_mk_delimiterText_iff .unset).1 ((isDelimiter_iff.1 hbars).2 _ hmem)

/-- The bars that complete a row of bars to a width have dashes: there are none, or there is one and
the right margin has room for it, or the style gives them some. -/
def BarsGetDashes (style : Style) (width : Nat) (r : Row) : Prop :=
  width ≤ r.width ∨ (width = r.width + 1 ∧ 3 ≤ r.marginRight.length) ∨ 1 ≤ style.minDashes

lemma isDelimiter_completeBars_iff {width : Nat} {r : Row} (hr : r.isDelimiter) :
    (r.completeBars style width).isDelimiter ↔ r.BarsGetDashes style width := by
  rw [completeBars, isDelimiter_extendTo_iff hr, BarsGetDashes]
  constructor
  · intro hall
    by_contra hshort
    have hfirst := hall r.width (Nat.le_refl _) (by omega)
    rw [if_pos rfl, Cell.bar, Cell.isDelimiter_mk_delimiterText_iff] at hfirst
    by_cases hone : width = r.width + 1
    · omega
    · -- the second new bar gets nothing from the margin
      have hsecond := hall (r.width + 1) (Nat.le_succ _) (by omega)
      rw [if_neg (Nat.succ_ne_self _), Cell.bar, Cell.isDelimiter_mk_delimiterText_iff] at hsecond
      omega
  · intro hget column hle hlt
    split <;> exact Cell.isDelimiter_mk_delimiterText .unset (by omega)

end Row

/-! ## Completed tables -/

namespace Table

variable {t : Table} {p : Parts} {completed : Completed}

/-- The bars that complete a table have dashes. -/
def GetsDashes (style : Style) (t : Table) : Prop :=
  match t.delimiterRow? with
  | some d => d.BarsGetDashes style t.width
  | none => 1 ≤ style.minDashes

/-- The second row of a completed table is the one that stands for its delimiter row. -/
lemma getElem?_complete_one (h : t.complete style = .ok completed) :
    completed.table.rows[1]? = some (match t.delimiterRow? with
      | some d => d.completeBars style t.width
      | none => Row.bars style t.width) := by
  obtain ⟨p, hp, rfl⟩ := exists_of_complete h
  rw [← delimiter?_of_parts? hp]
  rfl

/-- A completed table has a delimiter row exactly if the bars that were added have dashes. -/
lemma isSome_delimiterRow?_complete_iff (hwidth : 0 < t.width)
    (h : t.complete style = .ok completed) :
    completed.table.delimiterRow?.isSome ↔ t.GetsDashes style := by
  have hsecond := getElem?_complete_one h
  unfold GetsDashes
  rw [delimiterRow?, hsecond, Option.isSome_filter]
  cases hd : t.delimiterRow? with
  | none => exact Row.isDelimiter_bars_iff hwidth
  | some d => exact Row.isDelimiter_completeBars_iff (delimiterRow?_eq_some_iff.1 hd).2

lemma exists_complete_eq (hwidth : 0 < t.width) (style : Style) :
    ∃ completed, t.complete style = .ok completed := by
  obtain ⟨p, hp⟩ := exists_parts?_eq (rows_ne_nil_of_width_pos hwidth)
  exact ⟨_, complete_eq_of_parts? style hp⟩

lemma width_complete (h : t.complete style = .ok completed) : completed.table.width = t.width := by
  refine width_eq_of_forall ?_ fun s hs => width_of_mem_completed h hs
  intro hnil
  have hsecond := getElem?_complete_one h
  rw [hnil] at hsecond
  cases hsecond

/-- Completing tells whether it added a row, and adds no other one. -/
lemma height_complete (h : t.complete style = .ok completed) :
    completed.delimiterInserted = t.delimiterRow?.isNone ∧
      completed.table.height = t.height + if t.delimiterRow?.isNone then 1 else 0 := by
  obtain ⟨p, hp, rfl⟩ := exists_of_complete h
  rw [← delimiter?_of_parts? hp]
  refine ⟨rfl, ?_⟩
  rw [Parts.height_toTable, ← toTable_of_parts? hp, Parts.height_toTable]
  cases hd : p.delimiter? with
  | none =>
    simp only [Parts.complete, Option.toList_some, Option.toList_none, List.length_map,
      List.length_singleton, List.length_nil, Option.isNone_none, if_true]
    omega
  | some d =>
    simp only [Parts.complete, Option.toList_some, List.length_map, List.length_singleton,
      Option.isNone_some, Bool.false_eq_true, if_false, Nat.add_zero]

lemma isComplete_of_getsDashes (hwidth : 0 < t.width) (h : t.complete style = .ok completed)
    (hget : t.GetsDashes style) : completed.table.IsComplete := by
  obtain ⟨d, hd⟩ := Option.isSome_iff_exists.1 ((isSome_delimiterRow?_complete_iff hwidth h).2 hget)
  exact isComplete_of_width t.width hd fun s hs => width_of_mem_completed h hs

/-! ## Completing without an end -/

/-- A table with a cell but without a delimiter row, in a style of bars without dashes. -/
structure IsUnmarked (style : Style) (t : Table) : Prop where
  width_pos : 0 < t.width
  delimiterRow?_eq : t.delimiterRow? = none
  not_minDashes : ¬ 1 ≤ style.minDashes

/-- A table whose bars get no dashes is without a delimiter row once it is completed. -/
lemma isUnmarked_complete (hwidth : 0 < t.width) (h : t.complete style = .ok completed)
    (hget : ¬ t.GetsDashes style) : completed.table.IsUnmarked style := by
  refine ⟨?_, ?_, fun hmin => hget ?_⟩
  · rwa [width_complete h]
  · rw [← Option.not_isSome_iff_eq_none, isSome_delimiterRow?_complete_iff hwidth h]
    exact hget
  · unfold GetsDashes
    split
    · exact .inr (.inr hmin)
    · exact hmin

namespace IsUnmarked

lemma not_getsDashes (h : t.IsUnmarked style) : ¬ t.GetsDashes style := by
  rw [GetsDashes, h.delimiterRow?_eq]
  exact h.not_minDashes

/-- Completing adds a row that is no delimiter row. -/
lemma exists_complete (h : t.IsUnmarked style) :
    ∃ u, t.complete style = .ok ⟨u, true⟩ ∧ u.IsUnmarked style ∧ u.height = t.height + 1 := by
  obtain ⟨completed, hcompleted⟩ := exists_complete_eq h.width_pos style
  obtain ⟨hinserted, hheight⟩ := height_complete hcompleted
  rw [h.delimiterRow?_eq] at hinserted hheight
  refine ⟨completed.table, ?_, isUnmarked_complete h.width_pos hcompleted h.not_getsDashes, hheight⟩
  rw [hcompleted, ← show completed.delimiterInserted = true from hinserted]

/-- Every completion adds one row more. -/
lemma height_applyAll (h : t.IsUnmarked style) (current : Style) (n : Nat) :
    (Edit.applyAll current t (List.replicate n (.complete (some style)))).height =
      t.height + n := by
  induction n generalizing t with
  | zero => rfl
  | succ n ih =>
    obtain ⟨u, hcompleted, hu, hheight⟩ := h.exists_complete
    have happly : (Edit.complete (some style)).apply current t = .ok u := by
      show ((t.complete style).map Edit.Outcome.ofCompleted).map (·.table) = .ok u
      rw [hcompleted]
      rfl
    rw [List.replicate_succ, Edit.applyAll, happly]
    dsimp only
    rw [ih hu, hheight]
    omega

end IsUnmarked

end Table

/-- Completing a table makes a delimiter row, and leaves nothing to complete, exactly if the bars
that it adds get dashes.  If they do not, each further completion adds a row. -/
theorem complete_complete_iff {style : Style} {t : Table} (hwidth : 0 < t.width) :
    ∃ completed, t.complete style = .ok completed ∧
      (completed.table.delimiterRow?.isSome ↔ t.GetsDashes style) ∧
      (completed.table.complete style = .ok ⟨completed.table, false⟩ ↔ t.GetsDashes style) ∧
      (¬ t.GetsDashes style → ∀ (current : Style) (n : Nat),
        (Edit.applyAll current completed.table
          (List.replicate n (.complete (some style)))).height = completed.table.height + n) := by
  obtain ⟨completed, hcompleted⟩ := Table.exists_complete_eq hwidth style
  refine ⟨completed, hcompleted, Table.isSome_delimiterRow?_complete_iff hwidth hcompleted, ?_, ?_⟩
  · constructor
    · intro hagain
      by_contra hget
      have hunmarked := Table.isUnmarked_complete hwidth hcompleted hget
      obtain ⟨u, hu, -, -⟩ := hunmarked.exists_complete
      rw [hagain] at hu
      cases hu
    · intro hget
      exact (Table.isComplete_of_getsDashes hwidth hcompleted hget).complete_eq style
  · intro hget current n
    exact (Table.isUnmarked_complete hwidth hcompleted hget).height_applyAll current n

/-- The right margin of a short delimiter row has room for the one dash that the style does not
ask for. -/
theorem complete_complete_margin :
    ∃ completed, (Table.mk [⟨[], [⟨"a".toList⟩, ⟨"b".toList⟩], []⟩,
        ⟨[], [⟨"-".toList⟩], "   ".toList⟩]).complete { Style.standard with dashes := .int 0 } =
      .ok completed ∧ completed.table.delimiterRow?.isSome := by
  obtain ⟨completed, hcompleted, hdelimiter, -, -⟩ :=
    @complete_complete_iff { Style.standard with dashes := .int 0 }
      ⟨[⟨[], [⟨"a".toList⟩, ⟨"b".toList⟩], []⟩, ⟨[], [⟨"-".toList⟩], "   ".toList⟩]⟩ (by decide)
  exact ⟨completed, hcompleted, hdelimiter.2 (.inr (.inl ⟨rfl, by decide⟩))⟩

/-- In a style of bars without dashes a single cell gets two rows below it by being completed
twice. -/
theorem complete_complete_ne :
    ∃ completed again,
      (Table.mk [⟨[], [⟨"a".toList⟩], []⟩]).complete { Style.standard with dashes := .int 0 } =
        .ok completed ∧ completed.table.delimiterRow? = none ∧
      completed.table.complete { Style.standard with dashes := .int 0 } = .ok again ∧
        again.delimiterInserted = true ∧ again.table.height = 3 :=
  ⟨⟨⟨[⟨[], [⟨"a".toList⟩], []⟩, ⟨[], [⟨"  ".toList⟩], []⟩]⟩, true⟩,
    ⟨⟨[⟨[], [⟨"a".toList⟩], []⟩, ⟨[], [⟨"  ".toList⟩], []⟩, ⟨[], [⟨"  ".toList⟩], []⟩]⟩, true⟩,
    rfl, by decide, rfl, rfl, rfl⟩

end PipeTable
