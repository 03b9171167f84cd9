import PipeTable.Completion
import PipeTable.Proofs.Delimiter
import PipeTable.Proofs.Formatting.Gist
import PipeTable.Proofs.Reading.Readable
import PipeTable.Proofs.Table

/-!
# What completion adds

The cells that completion adds to a row are blank, and the bars that it adds declare nothing, so a
completed row says what the row said (`contents_complete`, `alignments_completeBars`).  All rows of
a completed table have its width (`width_of_mem_complete`), it has a delimiter row
(`exists_delimiter_complete`), and there is nothing left to complete (`complete_of_width_le`).
-/

namespace PipeTable

open Segment Text

namespace Row

/-! ## Extending a row -/

lemma extendTo_of_le {r : Row} {width : Nat} (h : width ≤ r.width) (fill : Nat → Cell) :
    r.extendTo width fill = r := by
  rw [extendTo, if_pos h]

@[simp] lemma marginLeft_extendTo (r : Row) (width : Nat) (fill : Nat → Cell) :
    (r.extendTo width fill).marginLeft = r.marginLeft := by
  unfold extendTo
  split <;> rfl

/-- An extended row has the cells that it had, and then those that are made from their columns. -/
lemma cells_extendTo (r : Row) (width : Nat) (fill : Nat → Cell) :
    (r.extendTo width fill).cells =
      r.cells ++ (List.range' r.width (width - r.width)).map fill := by
  unfold extendTo
  split
  · next h => simp [Nat.sub_eq_zero_of_le h]
  · rfl

/-- What a function makes of the cells of an extended row, if it makes the same of all new ones. -/
lemma map_cells_extendTo {β : Type} {f : Cell → β} {b : β} {fill : Nat → Cell}
    (hfill : ∀ column, f (fill column) = b) (r : Row) (width : Nat) :
    (r.extendTo width fill).cells.map f =
      r.cells.map f ++ List.replicate (width - r.width) b := by
  have hnew : (List.range' r.width (width - r.width)).map (f ∘ fill) =
      List.replicate (List.range' r.width (width - r.width)).length b :=
    List.map_eq_replicate_iff.2 fun column _ => hfill column
  rw [cells_extendTo, List.map_append, List.map_map, hnew, List.length_range']

lemma width_extendTo_eq {r : Row} {width : Nat} (h : r.width ≤ width) (fill : Nat → Cell) :
    (r.extendTo width fill).width = width := by
  rw [width_extendTo, Nat.max_eq_right h]

/-! ## Rows of contents -/

lemma complete_of_le {r : Row} {width : Nat} (h : width ≤ r.width) : r.complete width = r :=
  extendTo_of_le h _

/-- Completing adds cells without content. -/
lemma contents_complete {r : Row} (h : r.marginRight.isBlank) (width : Nat) :
    (r.complete width).contents = r.contents ++ List.replicate (width - r.width) [] := by
  refine map_cells_extendTo (fun column => ?_) r width
  split
  · exact trim_eq_nil_iff.2 h
  · rfl

lemma isPlain_raw_of_complete {r : Row} (h : r.marginRight.isBlank) (column : Nat) :
    IsPlain (if column = r.width then (⟨r.marginRight⟩ : Cell) else .empty).raw := by
  split
  · exact isPlain_of_isBlank h
  · exact isPlain_nil

lemma marginRight_extendTo (r : Row) (width : Nat) (fill : Nat → Cell) :
    (r.extendTo width fill).marginRight = if width ≤ r.width then r.marginRight else [] := by
  unfold extendTo
  split <;> rfl

/-- The cells of a row stay apart when it is completed. -/
lemma IsParsed.complete {rule : MarginRule} {r : Row} (h : r.IsParsed rule) (width : Nat) :
    (r.complete width).IsParsed rule := by
  refine ⟨?_, ?_, ?_⟩
  · rw [Row.complete, marginLeft_extendTo]
    exact h.marginLeft
  · rw [Row.complete, marginRight_extendTo]
    split
    · exact h.marginRight
    · rfl
  · rw [Row.complete, cells_extendTo, List.map_append]
    refine h.cells.append_plain ?_
    intro q hq
    simp only [List.map_map, List.mem_map] at hq
    obtain ⟨column, -, rfl⟩ := hq
    intro c hc
    rcases List.mem_append.1 hc with hc | hc
    · exact isPlain_raw_of_complete h.marginRight column c hc
    · rw [List.mem_singleton.1 hc]
      decide

/-! ## Delimiter rows -/

/-- Completing adds bars that declare nothing. -/
lemma alignments_completeBars (style : Style) (width : Nat) (r : Row) :
    (r.completeBars style width).alignments =
      r.alignments ++ List.replicate (width - r.width) .unset := by
  refine map_cells_extendTo (fun column => ?_) r width
  split <;> exact Cell.alignment_bar _

@[simp] lemma alignments_bars (style : Style) (width : Nat) :
    (bars style width).alignments = List.replicate width .unset := by
  simp [alignments, bars]

/-- A row of bars stays one exactly if all new cells are bars. -/
lemma isDelimiter_extendTo_iff {r : Row} (h : r.isDelimiter) (width : Nat) (fill : Nat → Cell) :
    (r.extendTo width fill).isDelimiter ↔
      ∀ column, r.width ≤ column → column < width → (fill column).isDelimiter := by
  obtain ⟨hne, hcells⟩ := isDelimiter_iff.1 h
  rw [isDelimiter_iff, cells_extendTo]
  constructor
  · rintro ⟨-, hall⟩ column hle hlt
    refine hall _ (List.mem_append_right _ (List.mem_map_of_mem ?_))
    rw [List.mem_range'_1]
    omega
  · intro hall
    refine ⟨List.append_ne_nil_of_left_ne_nil hne _, fun c hc => ?_⟩
    rcases List.mem_append.1 hc with hc | hc
    · exact hcells c hc
    · obtain ⟨column, hcolumn, rfl⟩ := List.mem_map.1 hc
      rw [List.mem_range'_1] at hcolumn
      exact hall column hcolumn.1 (by omega)

lemma isDelimiter_completeBars {style : Style} (hmin : 1 ≤ style.minDashes) (width : Nat) {r : Row}
    (h : r.isDelimiter) : (r.completeBars style width).isDelimiter := by
  refine (isDelimiter_extendTo_iff h width _).2 fun column _ _ => ?_
  split
  · exact Cell.isDelimiter_mk_delimiterText .unset (by omega)
  · exact Cell.isDelimiter_mk_delimiterText .unset hmin

lemma isDelimiter_bars {style : Style} (hmin : 1 ≤ style.minDashes) {width : Nat}
    (h : 0 < width) : (bars style width).isDelimiter := by
  rw [isDelimiter_iff]
  refine ⟨by simp [bars]; omega, ?_⟩
  intro c hc
  rw [List.eq_of_mem_replicate hc]
  exact Cell.isDelimiter_mk_delimiterText .unset hmin

end Row

/-! ## Completed tables -/

/-- The index that a row has once a delimiter row is added. -/
def rowAfter (delimiterInserted : Bool) (row : Nat) : Nat :=
  if delimiterInserted && 1 ≤ row then row + 1 else row

namespace Table

namespace Parts

variable {style : Style} {p : Parts}

/-- All rows of a completed table have its width. -/
lemma width_of_mem_complete {width : Nat} (hwidth : ∀ r ∈ p.toTable.rows, r.width ≤ width)
    {s : Row} (hs : s ∈ (p.complete style width).toTable.rows) : s.width = width := by
  rcases mem_toTable.1 hs with rfl | h | h
  · exact Row.width_extendTo_eq (hwidth _ (mem_toTable.2 (.inl rfl))) _
  · simp only [complete, Option.some.injEq] at h
    subst h
    cases hd : p.delimiter? with
    | none => simp [Row.bars, Row.width]
    | some d => exact Row.width_extendTo_eq (hwidth d (mem_toTable.2 (.inr (.inl hd)))) _
  · obtain ⟨r, hr, rfl⟩ := List.mem_map.1 h
    exact Row.width_extendTo_eq (hwidth r (mem_toTable.2 (.inr (.inr hr)))) _

/-- Every row is completed at its place, below a delimiter row that is added at the next one. -/
lemma getElem?_complete {i : Nat} {r : Row} (hr : p.toTable.rows[i]? = some r) (style : Style)
    (width : Nat) :
    (p.complete style width).toTable.rows[rowAfter p.delimiter?.isNone i]? =
      some (if i = 1 ∧ p.delimiter?.isSome then r.completeBars style width
        else r.complete width) := by
  obtain ⟨header, delimiter?, body⟩ := p
  cases i with
  | zero =>
    obtain rfl : header = r := by simpa [toTable] using hr
    cases delimiter? <;> rfl
  | succ k =>
    cases delimiter? with
    | none =>
      have hk : body[k]? = some r := by simpa [toTable] using hr
      simp [toTable, complete, rowAfter, hk]
    | some d =>
      cases k with
      | zero =>
        obtain rfl : d = r := by simpa [toTable] using hr
        rfl
      | succ k =>
        have hk : body[k]? = some r := by simpa [toTable] using hr
        simp [toTable, complete, rowAfter, hk]

lemma marginLeft_complete (style : Style) (width : Nat) (p : Parts) :
    (p.complete style width).header.marginLeft = p.header.marginLeft :=
  Row.marginLeft_extendTo _ _ _

/-- The alignments of a completed delimiter row: those that were declared, and unset ones. -/
def completeAlignments (width : Nat) (p : Parts) : List Alignment :=
  match p.delimiter? with
  | some d => d.alignments ++ List.replicate (width - d.width) .unset
  | none => List.replicate width .unset

/-- Completion in any style gives the same gist. -/
lemma gist_complete (style : Style) (width : Nat) (p : Parts) :
    (p.complete style width).gist =
      { margin := p.header.marginLeft
        header := (p.header.complete width).contents
        alignments? := some (p.completeAlignments width)
        body := (p.body.map (Row.complete width)).map (·.contents) } := by
  rw [gist, marginLeft_complete]
  unfold complete completeAlignments
  cases p.delimiter? with
  | none => simp
  | some d => simp [Row.alignments_completeBars]

/-- A completed table has a delimiter row. -/
lemma exists_delimiter_complete (hmin : 1 ≤ style.minDashes) {width : Nat} (hpos : 0 < width)
    (hd : ∀ d, p.delimiter? = some d → d.isDelimiter) :
    ∃ d, (p.complete style width).delimiter? = some d ∧ d.isDelimiter := by
  refine ⟨_, rfl, ?_⟩
  cases h : p.delimiter? with
  | none => exact Row.isDelimiter_bars hmin hpos
  | some d => exact Row.isDelimiter_completeBars hmin width (hd d h)

/-- There is nothing to complete in a table with a delimiter row if no row is short. -/
lemma complete_of_width_le {width : Nat} {d : Row} (hd : p.delimiter? = some d)
    (hwidth : ∀ r ∈ p.toTable.rows, width ≤ r.width) (style : Style) :
    p.complete style width = p := by
  have hrows : ∀ r, r = p.header ∨ p.delimiter? = some r ∨ r ∈ p.body → width ≤ r.width :=
    fun r hr => hwidth r (mem_toTable.2 hr)
  have hheader : p.header.complete width = p.header := Row.complete_of_le (hrows _ (.inl rfl))
  have hdelimiter : d.completeBars style width = d :=
    Row.extendTo_of_le (hrows d (.inr (.inl hd))) _
  have hbody : p.body.map (Row.complete width) = p.body := by
    rw [List.map_congr_left fun r hr => Row.complete_of_le (hrows r (.inr (.inr hr))), List.map_id']
  obtain ⟨header, delimiter?, body⟩ := p
  obtain rfl : delimiter? = some d := hd
  simp only [Parts.complete, Parts.mk.injEq, Option.some.injEq]
  exact ⟨hheader, hdelimiter, hbody⟩

end Parts

variable {style : Style} {t : Table} {completed : Completed}

lemma complete_eq_of_parts? {p : Parts} (style : Style) (hp : t.parts? = some p) :
    t.complete style = .ok ⟨(p.complete style t.width).toTable, p.delimiter?.isNone⟩ := by
  rw [complete, hp]

/-- What is completed are the parts of the table. -/
lemma exists_of_complete (h : t.complete style = .ok completed) :
    ∃ p, t.parts? = some p ∧
      completed = ⟨(p.complete style t.width).toTable, p.delimiter?.isNone⟩ := by
  cases hp : t.parts? with
  | none => simp [complete, hp] at h
  | some p =>
    rw [complete_eq_of_parts? style hp] at h
    exact ⟨p, rfl, (Except.ok.inj h).symm⟩

lemma width_of_mem_completed (h : t.complete style = .ok completed) {s : Row}
    (hs : s ∈ completed.table.rows) : s.width = t.width := by
  obtain ⟨p, hp, rfl⟩ := exists_of_complete h
  refine Parts.width_of_mem_complete ?_ hs
  intro r hr
  rw [toTable_of_parts? hp] at hr
  exact width_le hr

end Table

end PipeTable
