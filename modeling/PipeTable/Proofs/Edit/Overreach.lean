import PipeTable.Proofs.Edit.Delimiter
import PipeTable.Proofs.Edit.Origin

/-!
# Edits that reach past the delimiter row

A delimiter row may be shorter than its table.  Inserting and moving a column extend every row that
is too short with empty cells, the delimiter row as well, and an empty cell is no bar: the row is
none of bars any more, and the table has lost its delimiter row.

The main statement, `isSome_delimiterRow?_apply_iff`, is that nothing else can happen to it.  Of the
edits that restructure a table, those that overreach lose the delimiter row, and all others keep
one, whatever the table, the indices and the rows and cells that are brought in.
-/

namespace PipeTable

/-! ## Rows of bars that are extended -/

namespace Row

variable {r : Row} {column dest : Nat}

lemma not_isDelimiter_of_empty_mem (h : Cell.empty ∈ r.cells) : ¬ r.isDelimiter := by
  intro hr
  have hempty : Cell.empty.isDelimiter := (isDelimiter_iff.1 hr).2 _ h
  exact absurd hempty (by decide)

/-- A bar that is inserted further behind than right after the last one leaves a gap. -/
lemma not_isDelimiter_insertCell (h : r.width < column) (c : Cell) :
    ¬ (r.insertCell column c).isDelimiter := by
  have hmem : Cell.empty ∈ Sequence.extend r.cells column fun _ => .empty :=
    Sequence.mem_extend_of_lt h _
  have hlen : column ≤ (Sequence.extend r.cells column fun _ => Cell.empty).length := by
    rw [Sequence.length_extend]
    exact Nat.le_max_right _ _
  exact not_isDelimiter_of_empty_mem ((List.mem_insertIdx hlen).2 (.inr hmem))

/-- Moving between columns one of which the row does not have leaves a gap. -/
lemma not_isDelimiter_moveCell (h : r.width ≤ column ∨ r.width ≤ dest) :
    ¬ (r.moveCell column dest).isDelimiter := by
  have hlt : r.cells.length < max column dest + 1 := by
    rw [Row.width] at h
    omega
  have hdest :
      dest < (Sequence.extend r.cells (max column dest + 1) fun _ => Cell.empty).length := by
    rw [Sequence.length_extend]
    omega
  have hmem := (Sequence.perm_move hdest column).mem_iff.2
    (Sequence.mem_extend_of_lt hlt fun _ => Cell.empty)
  exact not_isDelimiter_of_empty_mem hmem

end Row

namespace Table

variable {style : Style} {t t' : Table} {d : Row} {index dest : Int}

lemma delimiterRow?_eq_none_of_getElem? {r : Row} (hsecond : t.rows[1]? = some r)
    (hr : ¬ r.isDelimiter) : t.delimiterRow? = none := by
  rw [delimiterRow?, hsecond, Option.filter_some, if_neg hr]

lemma exists_insertColumn?_eq (hindex : 0 ≤ index) (hwidth : index ≤ t.width) (style : Style)
    (cells : List Cell) : ∃ t', t.insertColumn? style index cells = some t' := by
  rw [insertColumn?, if_pos (inBounds_iff.2 ⟨hindex, by omega⟩)]
  exact ⟨_, rfl⟩

lemma exists_moveColumn?_eq (hne : index ≠ dest) (hindex : 0 ≤ index ∧ index < t.width)
    (hdest : 0 ≤ dest ∧ dest < t.width) : ∃ t', t.moveColumn? index dest = some t' := by
  rw [moveColumn?, if_pos (by simp [hne, inBounds_iff.2 hindex, inBounds_iff.2 hdest])]
  exact ⟨_, rfl⟩

end Table

/-! ## Edits -/

namespace Edit

/-- The edits that restructure a table: all but completing and formatting. -/
def IsStructural : Edit → Prop
  | .complete _ | .format _ => False
  | _ => True

/-- The bars that the edit draws have at least one dash, in its own style or in the current one. -/
def DrawsDashes (current : Style) : Edit → Prop
  | .alterAlignment _ _ style? | .insertColumn _ _ style? | .deleteColumn _ style? =>
    1 ≤ (style?.getD current).minDashes
  | _ => True

/-- An edit that applies to the table and takes a bar to a column behind the end of the delimiter
row `d`, so that there is a gap to fill. -/
def Overreaches (t : Table) (d : Row) : Edit → Prop
  | .insertColumn index _ _ => d.width < index ∧ index ≤ t.width
  | .moveColumn index dest =>
    index ≠ dest ∧ (0 ≤ index ∧ index < t.width) ∧ (0 ≤ dest ∧ dest < t.width) ∧
      (d.width ≤ index ∨ d.width ≤ dest)
  | _ => False

variable {current : Style} {t t' : Table} {d : Row} {e : Edit}

/-- An edit that does not overreach keeps the delimiter row. -/
lemma exists_delimiterRow?_apply (hd : t.delimiterRow? = some d) (hstructural : e.IsStructural)
    (hdashes : e.DrawsDashes current) (hreach : ¬ e.Overreaches t d)
    (happly : e.apply current t = .ok t') : ∃ d', t'.delimiterRow? = some d' := by
  rcases apply_cases happly with rfl | hmakes
  · exact ⟨d, hd⟩
  cases e with
  | complete => exact absurd hstructural id
  | format => exact absurd hstructural id
  | alterAlignment column value style? =>
    obtain ⟨d', -, a, hd', rfl⟩ := Table.exists_of_alterAlignment? hmakes
    exact ⟨_, Table.delimiterRow?_set_setBar hdashes hd' _ _ a⟩
  | insertRow index row =>
    rw [← show _ = t' from hmakes]
    exact ⟨d, Table.delimiterRow?_insertRow hd index row⟩
  | deleteRow index => exact ⟨d, by rw [Table.delimiterRow?_deleteRow? hmakes, hd]⟩
  | moveRow index dest => exact ⟨d, by rw [Table.delimiterRow?_moveRow? hmakes, hd]⟩
  | insertColumn index cells style? =>
    obtain ⟨-, hwidth⟩ := Table.bounds_of_insertColumn? hmakes
    have hindex : index ≤ d.width := Int.not_lt.1 fun hlt => hreach ⟨hlt, hwidth⟩
    exact ⟨_, Table.delimiterRow?_insertColumn? hdashes hd hindex hmakes⟩
  | deleteColumn index style? => exact ⟨_, Table.delimiterRow?_deleteColumn? hdashes hd hmakes⟩
  | moveColumn index dest =>
    obtain ⟨hindex, hdest⟩ := Table.bounds_of_moveColumn? hmakes
    have hne := Table.ne_of_moveColumn? hmakes
    have hwidth : index < d.width ∧ dest < d.width := by
      by_contra hshort
      exact hreach ⟨hne, hindex, hdest, by omega⟩
    exact ⟨_, Table.delimiterRow?_moveColumn? hd hwidth.1 hwidth.2 hmakes⟩

/-- An edit that overreaches fills the gap with empty cells and loses the delimiter row. -/
lemma delimiterRow?_apply_of_overreaches (hd : t.delimiterRow? = some d)
    (hreach : e.Overreaches t d) (happly : e.apply current t = .ok t') :
    t'.delimiterRow? = none := by
  cases e with
  | insertColumn index cells style? =>
    obtain ⟨hgap, hwidth⟩ := hreach
    obtain ⟨new, hnew⟩ := Table.exists_insertColumn?_eq (t := t) (by omega) hwidth
      (style?.getD current) cells
    have hsecond := Table.getElem?_insertColumn?_one hd hnew
    cases happly
    simp only [Outcome.ofOption, hnew, Option.getD_some]
    exact Table.delimiterRow?_eq_none_of_getElem? hsecond
      (Row.not_isDelimiter_insertCell (by omega) _)
  | moveColumn index dest =>
    obtain ⟨hne, hindex, hdest, hgap⟩ := hreach
    obtain ⟨new, hnew⟩ := Table.exists_moveColumn?_eq hne hindex hdest
    have hsecond := Table.getElem?_moveColumn?_one hd hnew
    cases happly
    simp only [Outcome.ofOption, hnew, Option.getD_some]
    exact Table.delimiterRow?_eq_none_of_getElem? hsecond
      (Row.not_isDelimiter_moveCell (by omega))
  | _ => exact absurd hreach id

end Edit

/-- An edit that restructures a table keeps its delimiter row exactly if it does not overreach. -/
theorem isSome_delimiterRow?_apply_iff {current : Style} {t t' : Table} {d : Row} {e : Edit}
    (hd : t.delimiterRow? = some d) (hstructural : e.IsStructural)
    (hdashes : e.DrawsDashes current) (happly : e.apply current t = .ok t') :
    t'.delimiterRow?.isSome ↔ ¬ e.Overreaches t d := by
  constructor
  · intro hsome hreach
    rw [Edit.delimiterRow?_apply_of_overreaches hd hreach happly] at hsome
    cases hsome
  · intro hreach
    obtain ⟨d', hd'⟩ := Edit.exists_delimiterRow?_apply hd hstructural hdashes hreach happly
    rw [hd']
    rfl

/-- A column goes right behind the only bar of a ragged table. -/
theorem isSome_delimiterRow?_apply_ragged :
    (Table.mk [⟨[], [⟨"a".toList⟩, ⟨"x".toList⟩, ⟨"b".toList⟩, ⟨"c".toList⟩], []⟩,
      ⟨[], [⟨"-".toList⟩, .bar 3], []⟩, ⟨[], [⟨"d".toList⟩, .empty], []⟩]).delimiterRow?.isSome := by
  have happly : (Edit.insertColumn 1 [⟨"x".toList⟩] none).apply .standard
      ⟨[⟨[], [⟨"a".toList⟩, ⟨"b".toList⟩, ⟨"c".toList⟩], []⟩, ⟨[], [⟨"-".toList⟩], []⟩,
        ⟨[], [⟨"d".toList⟩], []⟩]⟩ =
      .ok ⟨[⟨[], [⟨"a".toList⟩, ⟨"x".toList⟩, ⟨"b".toList⟩, ⟨"c".toList⟩], []⟩,
        ⟨[], [⟨"-".toList⟩, .bar 3], []⟩, ⟨[], [⟨"d".toList⟩, .empty], []⟩]⟩ := rfl
  have hstructural : (Edit.insertColumn 1 [⟨"x".toList⟩] none).IsStructural := trivial
  have hdashes : (Edit.insertColumn 1 [⟨"x".toList⟩] none).DrawsDashes .standard := by
    show 1 ≤ Style.standard.minDashes
    decide
  refine (isSome_delimiterRow?_apply_iff (d := ⟨[], [⟨"-".toList⟩], []⟩) rfl hstructural hdashes
    happly).2 ?_
  rintro ⟨hgap, -⟩
  exact absurd hgap (by decide)

/-- Exchanging two columns puts an empty cell in front of the only bar. -/
theorem delimiterRow?_apply_moveColumn_eq_none :
    ∃ t t' : Table, t.delimiterRow?.isSome ∧
      (Edit.moveColumn 0 1).apply .standard t = .ok t' ∧ t'.delimiterRow? = none :=
  ⟨⟨[⟨[], [⟨"a".toList⟩, ⟨"b".toList⟩], []⟩, ⟨[], [⟨"-".toList⟩], []⟩]⟩,
    ⟨[⟨[], [⟨"b".toList⟩, ⟨"a".toList⟩], []⟩, ⟨[], [.empty, ⟨"-".toList⟩], []⟩]⟩,
    by decide, rfl, by decide⟩

end PipeTable
