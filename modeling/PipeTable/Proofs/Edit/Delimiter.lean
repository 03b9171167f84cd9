import PipeTable.Edit.Basic
import PipeTable.Proofs.Delimiter
import PipeTable.Proofs.Sequence
import PipeTable.Proofs.Table

/-!
# What edits do to the delimiter row

The delimiter row is told by its place and its text.  An edit would destroy it by putting another
row into its place, or by giving it a cell that is no bar.  Row edits leave the first two rows where
they are, so the delimiter row of the new table is that of the old one
(`delimiterRow?_insertRow`, `delimiterRow?_deleteRow?`, `delimiterRow?_moveRow?`).  Column edits and
changes of an alignment make it anew, from bars only as long as the row has the columns in question:
a short row would be extended with empty cells.
-/

namespace PipeTable

variable {style : Style}

/-! ## Rows of bars -/

namespace Row

variable {r : Row} {column : Nat}

lemma isDelimiter_withCells {cells : List Cell} (hne : cells ≠ [])
    (h : ∀ c ∈ cells, c.isDelimiter) : (r.withCells cells).isDelimiter :=
  isDelimiter_iff.2 ⟨hne, h⟩

lemma width_pos_of_isDelimiter (hr : r.isDelimiter) : 0 < r.width :=
  List.length_pos_iff.2 (isDelimiter_iff.1 hr).1

lemma isDelimiter_insertCell (hr : r.isDelimiter) (hcolumn : column ≤ r.width) {c : Cell}
    (hc : c.isDelimiter) : (r.insertCell column c).isDelimiter := by
  obtain ⟨-, hcells⟩ := isDelimiter_iff.1 hr
  rw [insertCell, Sequence.extend_of_le hcolumn]
  refine isDelimiter_withCells ?_ ?_
  · rw [← List.length_pos_iff, List.length_insertIdx_of_le_length hcolumn]
    exact Nat.succ_pos _
  · intro d hd
    rcases List.eq_or_mem_of_mem_insertIdx hd with rfl | hd
    · exact hc
    · exact hcells d hd

lemma isDelimiter_deleteCell (hr : r.isDelimiter) {last : Cell} (hlast : last.isDelimiter)
    (column : Nat) : (r.deleteCell column last).isDelimiter := by
  obtain ⟨-, hcells⟩ := isDelimiter_iff.1 hr
  unfold deleteCell
  split
  · exact hr
  · split
    · refine isDelimiter_withCells (List.cons_ne_nil _ _) ?_
      intro c hc
      rw [List.mem_singleton.1 hc]
      exact hlast
    · next hcolumn hwidth =>
      have hlt : column < r.cells.length := Nat.lt_of_not_le hcolumn
      have hmany : 1 < r.cells.length := Nat.lt_of_not_le hwidth
      refine isDelimiter_withCells ?_ fun c hc => hcells c (List.mem_of_mem_eraseIdx hc)
      rw [← List.length_pos_iff, List.length_eraseIdx_of_lt hlt]
      omega

lemma isDelimiter_moveCell (hr : r.isDelimiter) (hcolumn : column < r.width) {dest : Nat}
    (hdest : dest < r.width) : (r.moveCell column dest).isDelimiter := by
  obtain ⟨hne, hcells⟩ := isDelimiter_iff.1 hr
  have hle : max column dest + 1 ≤ r.cells.length :=
    Nat.succ_le_of_lt (Nat.max_lt.2 ⟨hcolumn, hdest⟩)
  rw [moveCell, Sequence.extend_of_le hle]
  refine isDelimiter_withCells ?_ fun c hc => hcells c (Sequence.mem_of_mem_move hc)
  rw [← List.length_pos_iff, Sequence.length_move hdest]
  exact List.length_pos_iff.2 hne

lemma width_setBar (style : Style) (column width : Nat) (a : Alignment) (r : Row) :
    (r.setBar style column width a).width = max r.width width := by
  rw [setBar, width_withCells, List.length_set, Sequence.length_extend, Row.width]

lemma getElem?_setBar_self (style : Style) {width : Nat} (hcolumn : column < width) (a : Alignment)
    (r : Row) :
    (r.setBar style column width a).cells[column]? = some ⟨delimiterText a style.minDashes⟩ := by
  refine List.getElem?_set_self ?_
  rw [Sequence.length_extend]
  omega

lemma isDelimiter_setBar (hmin : 1 ≤ style.minDashes) (hr : r.isDelimiter) (column width : Nat)
    (a : Alignment) : (r.setBar style column width a).isDelimiter := by
  obtain ⟨hne, hcells⟩ := isDelimiter_iff.1 hr
  refine isDelimiter_withCells ?_ ?_
  · have hpos : 0 < r.cells.length := List.length_pos_iff.2 hne
    rw [← List.length_pos_iff, List.length_set, Sequence.length_extend]
    omega
  · intro c hc
    rcases List.mem_or_eq_of_mem_set hc with hc | rfl
    · exact Sequence.forall_mem_extend hcells
        (fun _ => Cell.isDelimiter_mk_delimiterText .unset hmin) width c hc
    · exact Cell.isDelimiter_mk_delimiterText a hmin

end Row

/-! ## Tables -/

namespace Table

variable {t t' : Table} {d : Row} {index dest : Int}

lemma delimiterRow?_eq_some_iff :
    t.delimiterRow? = some d ↔ t.rows[1]? = some d ∧ d.isDelimiter :=
  Option.filter_eq_some_iff

lemma delimiterRow?_congr (h : t'.rows[1]? = t.rows[1]?) : t'.delimiterRow? = t.delimiterRow? := by
  rw [delimiterRow?, delimiterRow?, h]

/-- Whether the row of an index is the delimiter row. -/
def isDelimiterAt (t : Table) (i : Nat) : Bool := i = 1 && t.delimiterRow?.isSome

lemma isDelimiterAt_of_none (h : t.delimiterRow? = none) (i : Nat) :
    t.isDelimiterAt i = false := by
  rw [isDelimiterAt, h, Option.isSome_none, Bool.and_false]

lemma isDelimiterAt_one (h : t.delimiterRow? = some d) : t.isDelimiterAt 1 = true := by
  rw [isDelimiterAt, h]
  rfl

/-! ### Row edits -/

lemma delimiterRow?_insertRow (h : t.delimiterRow? = some d) (index : Int) (r : Row) :
    (t.insertRow index r).delimiterRow? = some d := by
  rw [← h]
  have hheight : 1 < t.height :=
    (List.getElem?_eq_some_iff.1 (delimiterRow?_eq_some_iff.1 h).1).1
  refine delimiterRow?_congr (List.getElem?_insertIdx_of_lt ?_)
  rw [bodyStart]
  omega

lemma delimiterRow?_deleteRow? (h : t.deleteRow? index = some t') :
    t'.delimiterRow? = t.delimiterRow? := by
  unfold deleteRow? at h
  split at h
  · cases h
  · next hbounds =>
    simp only [Sequence.inBounds, Bool.or_eq_true, Bool.not_eq_true', Bool.and_eq_false_iff,
      decide_eq_false_iff_not, decide_eq_true_eq, not_or, not_not] at hbounds
    split at h <;> cases h
    · exact delimiterRow?_congr (by rw [List.getElem?_modifyHead, if_neg Nat.one_ne_zero])
    · exact delimiterRow?_congr (List.getElem?_eraseIdx_of_lt (by omega))

lemma two_le_of_isMovable (h : t.isMovable index) : 2 ≤ index ∧ index < t.height := by
  obtain ⟨hstart, hheight⟩ := Bool.and_eq_true_iff.1 h
  exact ⟨of_decide_eq_true hstart, of_decide_eq_true hheight⟩

lemma delimiterRow?_moveRow? (h : t.moveRow? index dest = some t') :
    t'.delimiterRow? = t.delimiterRow? := by
  unfold moveRow? at h
  split at h <;> cases h
  next hmovable =>
  obtain ⟨⟨-, hindex⟩, hdest⟩ := by simpa only [Bool.and_eq_true] using hmovable
  have hindex := two_le_of_isMovable hindex
  have hdest := two_le_of_isMovable hdest
  exact delimiterRow?_congr (Sequence.getElem?_move_of_lt (by omega) (by omega) _)

/-! ### Column edits -/

lemma newCells_of_delimiterRow? (h : t.delimiterRow? = some d) (style : Style)
    (cells : List Cell) : (t.newCells style cells)[1]? = some (.bar style.minDashes) := by
  unfold newCells
  rw [h]
  rfl

lemma getElem?_insertColumn?_one (h : t.delimiterRow? = some d) {cells : List Cell}
    (hinserted : t.insertColumn? style index cells = some t') :
    t'.rows[1]? = some (d.insertCell index.toNat (.bar style.minDashes)) := by
  unfold insertColumn? at hinserted
  split at hinserted <;> cases hinserted
  rw [List.getElem?_zipWith, newCells_of_delimiterRow? h, (delimiterRow?_eq_some_iff.1 h).1]

lemma delimiterRow?_insertColumn? (hmin : 1 ≤ style.minDashes) (h : t.delimiterRow? = some d)
    (hindex : index ≤ d.width) {cells : List Cell}
    (hinserted : t.insertColumn? style index cells = some t') :
    t'.delimiterRow? = some (d.insertCell index.toNat (.bar style.minDashes)) := by
  obtain ⟨-, hd⟩ := delimiterRow?_eq_some_iff.1 h
  refine delimiterRow?_eq_some_iff.2 ⟨getElem?_insertColumn?_one h hinserted, ?_⟩
  exact Row.isDelimiter_insertCell hd (by omega) (Cell.isDelimiter_mk_delimiterText .unset hmin)

lemma getElem?_mapRows (content bars : Row → Row) (t : Table) (i : Nat) :
    (t.mapRows content bars).rows[i]? =
      t.rows[i]?.map (if t.isDelimiterAt i then bars else content) := by
  obtain ⟨rows⟩ := t
  rcases rows with _ | ⟨header, _ | ⟨second, rest⟩⟩
  · rfl
  · rcases i with _ | i <;> rfl
  · rcases i with _ | _ | i
    · rfl
    · cases hsecond : second.isDelimiter <;>
        simp [mapRows, isDelimiterAt, delimiterRow?, Option.filter, hsecond]
    · exact List.getElem?_map

lemma delimiterRow?_deleteColumn? (hmin : 1 ≤ style.minDashes) (h : t.delimiterRow? = some d)
    (hdeleted : t.deleteColumn? style index = some t') :
    t'.delimiterRow? = some (d.deleteCell index.toNat (.bar style.minDashes)) := by
  obtain ⟨hsecond, hd⟩ := delimiterRow?_eq_some_iff.1 h
  unfold deleteColumn? at hdeleted
  split at hdeleted <;> cases hdeleted
  rw [delimiterRow?_eq_some_iff]
  constructor
  · rw [getElem?_mapRows, hsecond, Option.map_some, if_pos (isDelimiterAt_one h)]
  · exact Row.isDelimiter_deleteCell hd (Cell.isDelimiter_mk_delimiterText .unset hmin) _

lemma getElem?_moveColumn?_one (h : t.delimiterRow? = some d)
    (hmoved : t.moveColumn? index dest = some t') :
    t'.rows[1]? = some (d.moveCell index.toNat dest.toNat) := by
  unfold moveColumn? at hmoved
  split at hmoved <;> cases hmoved
  rw [List.getElem?_map, (delimiterRow?_eq_some_iff.1 h).1, Option.map_some]

lemma delimiterRow?_moveColumn? (h : t.delimiterRow? = some d) (hindex : index < d.width)
    (hdest : dest < d.width) (hmoved : t.moveColumn? index dest = some t') :
    t'.delimiterRow? = some (d.moveCell index.toNat dest.toNat) := by
  obtain ⟨-, hd⟩ := delimiterRow?_eq_some_iff.1 h
  have hpos := Row.width_pos_of_isDelimiter hd
  refine delimiterRow?_eq_some_iff.2 ⟨getElem?_moveColumn?_one h hmoved, ?_⟩
  exact Row.isDelimiter_moveCell hd (by omega) (by omega)

/-! ### Changing an alignment -/

lemma delimiterRow?_set_setBar (hmin : 1 ≤ style.minDashes) (h : t.delimiterRow? = some d)
    (column width : Nat) (a : Alignment) :
    (Table.mk (t.rows.set 1 (d.setBar style column width a))).delimiterRow? =
      some (d.setBar style column width a) := by
  obtain ⟨hsecond, hd⟩ := delimiterRow?_eq_some_iff.1 h
  rw [delimiterRow?_eq_some_iff]
  exact ⟨List.getElem?_set_self (List.getElem?_eq_some_iff.1 hsecond).1,
    Row.isDelimiter_setBar hmin hd column width a⟩

end Table

end PipeTable
