import PipeTable.Edit.Basic
import PipeTable.Proofs.Refusal
import PipeTable.Proofs.Sequence

/-!
# Where the rows of an edited table come from

An edit makes every row of the new table from a row of the old one, but for a row that it inserts.
The lemmas here say this of each edit, together with what is known because the edit applied: that
an index was in range.  Whatever is to be shown of all rows of an edited table starts from them.

An edit that succeeds either leaves the table as it was or does what its operation does
(`Edit.apply_cases`), so that what one operation keeps is shown of the operation alone.
-/

namespace PipeTable.Table

variable {style : Style} {t t' : Table} {s : Row} {index dest : Int}

lemma inBounds_iff {size : Nat} :
    Sequence.inBounds index size = true ↔ 0 ≤ index ∧ index < size := by
  simp [Sequence.inBounds]

/-! ## Row edits -/

lemma of_mem_insertRow {r : Row} (hs : s ∈ (t.insertRow index r).rows) : s = r ∨ s ∈ t.rows :=
  List.eq_or_mem_of_mem_insertIdx hs

/-- The header is blanked when it is deleted, and any other row goes away. -/
lemma of_mem_deleteRow? (h : t.deleteRow? index = some t') (hs : s ∈ t'.rows) :
    s ∈ t.rows ∨ ∃ header ∈ t.rows, s = header.withCells (header.cells.map fun _ => .empty) := by
  unfold deleteRow? at h
  split at h
  · cases h
  · split at h <;> cases h
    · obtain ⟨rows⟩ := t
      cases rows with
      | nil => exact .inl hs
      | cons header rest =>
        rcases List.mem_cons.1 hs with rfl | hs
        · exact .inr ⟨header, List.mem_cons_self, rfl⟩
        · exact .inl (List.mem_cons_of_mem header hs)
    · exact .inl (List.mem_of_mem_eraseIdx hs)

lemma of_mem_moveRow? (h : t.moveRow? index dest = some t') (hs : s ∈ t'.rows) : s ∈ t.rows := by
  unfold moveRow? at h
  split at h <;> cases h
  exact Sequence.mem_of_mem_move hs

/-! ## Column edits -/

/-- An inserted column has a cell for every row. -/
lemma of_mem_insertColumn? {cells : List Cell} (h : t.insertColumn? style index cells = some t')
    (hs : s ∈ t'.rows) :
    ∃ r ∈ t.rows, ∃ c ∈ t.newCells style cells, s = r.insertCell index.toNat c := by
  unfold insertColumn? at h
  split at h <;> cases h
  dsimp only at hs
  rw [← List.map_uncurry_zip_eq_zipWith] at hs
  obtain ⟨⟨c, r⟩, hcr, rfl⟩ := List.mem_map.1 hs
  obtain ⟨hc, hr⟩ := List.of_mem_zip hcr
  exact ⟨r, hr, c, hc, rfl⟩

lemma bounds_of_insertColumn? {cells : List Cell}
    (h : t.insertColumn? style index cells = some t') : 0 ≤ index ∧ index ≤ t.width := by
  unfold insertColumn? at h
  split at h <;> cases h
  next hindex =>
  have hbounds := inBounds_iff.1 hindex
  omega

lemma of_mem_mapRows {content bars : Row → Row} (hs : s ∈ (t.mapRows content bars).rows) :
    ∃ r ∈ t.rows, s = content r ∨ s = bars r := by
  unfold mapRows at hs
  split at hs
  · next header second rest hrows =>
    rw [hrows]
    rcases List.mem_cons.1 hs with rfl | hs
    · exact ⟨header, List.mem_cons_self, .inl rfl⟩
    · rcases List.mem_cons.1 hs with rfl | hs
      · refine ⟨second, List.mem_cons_of_mem _ List.mem_cons_self, ?_⟩
        split
        · exact .inr rfl
        · exact .inl rfl
      · obtain ⟨r, hr, rfl⟩ := List.mem_map.1 hs
        exact ⟨r, List.mem_cons_of_mem _ (List.mem_cons_of_mem _ hr), .inl rfl⟩
  · obtain ⟨r, hr, rfl⟩ := List.mem_map.1 hs
    exact ⟨r, hr, .inl rfl⟩

lemma of_mem_deleteColumn? (h : t.deleteColumn? style index = some t') (hs : s ∈ t'.rows) :
    ∃ r ∈ t.rows, s = r.deleteCell index.toNat .empty ∨
      s = r.deleteCell index.toNat (.bar style.minDashes) := by
  unfold deleteColumn? at h
  split at h <;> cases h
  exact of_mem_mapRows hs

lemma bounds_of_deleteColumn? (h : t.deleteColumn? style index = some t') :
    0 ≤ index ∧ index < t.width := by
  unfold deleteColumn? at h
  split at h <;> cases h
  next hindex => exact inBounds_iff.1 hindex

lemma of_mem_moveColumn? (h : t.moveColumn? index dest = some t') (hs : s ∈ t'.rows) :
    ∃ r ∈ t.rows, s = r.moveCell index.toNat dest.toNat := by
  unfold moveColumn? at h
  split at h <;> cases h
  obtain ⟨r, hr, rfl⟩ := List.mem_map.1 hs
  exact ⟨r, hr, rfl⟩

lemma bounds_of_moveColumn? (h : t.moveColumn? index dest = some t') :
    (0 ≤ index ∧ index < t.width) ∧ 0 ≤ dest ∧ dest < t.width := by
  unfold moveColumn? at h
  split at h <;> cases h
  next hbounds =>
  obtain ⟨hleft, hdest⟩ := Bool.and_eq_true_iff.1 hbounds
  obtain ⟨-, hindex⟩ := Bool.and_eq_true_iff.1 hleft
  exact ⟨inBounds_iff.1 hindex, inBounds_iff.1 hdest⟩

lemma ne_of_moveColumn? (h : t.moveColumn? index dest = some t') : index ≠ dest := by
  unfold moveColumn? at h
  split at h <;> cases h
  next hbounds =>
  obtain ⟨hleft, -⟩ := Bool.and_eq_true_iff.1 hbounds
  exact of_decide_eq_true (Bool.and_eq_true_iff.1 hleft).1

/-! ## Changing an alignment -/

/-- Changing an alignment writes the delimiter row anew, and no other row. -/
lemma exists_of_alterAlignment? {column : Int} {value : Value}
    (h : t.alterAlignment? style column value = .ok (some t')) :
    ∃ d ∈ t.rows, ∃ a, t.delimiterRow? = some d ∧
      t' = ⟨t.rows.set 1 (d.setBar style column.toNat (t.headerWidth?.getD 0) a)⟩ := by
  unfold alterAlignment? at h
  cases hd : t.alignable? column with
  | none => simp [hd] at h
  | some d =>
    rw [hd] at h
    obtain ⟨a, -, h⟩ := bind_eq_ok_iff.1 h
    cases h
    unfold alignable? at hd
    split at hd
    · exact ⟨d, List.mem_of_getElem? (Option.filter_eq_some_iff.1 hd).1, a, hd, rfl⟩
    · cases hd

end PipeTable.Table

/-! ## Edits -/

namespace PipeTable.Edit

/-- What it takes for the operation of an edit to make a table from another one. -/
def Makes (current : Style) (t t' : Table) : Edit → Prop
  | .complete style? => ∃ completed, t.complete (style?.getD current) = .ok completed ∧
      completed.table = t'
  | .format style? => ∃ formatted, t.format (style?.getD current) = .ok formatted ∧
      formatted.table = t'
  | .alterAlignment column value style? =>
    t.alterAlignment? (style?.getD current) column value = .ok (some t')
  | .insertRow index row => t.insertRow index row = t'
  | .deleteRow index => t.deleteRow? index = some t'
  | .moveRow index dest => t.moveRow? index dest = some t'
  | .insertColumn index cells style? => t.insertColumn? (style?.getD current) index cells = some t'
  | .deleteColumn index style? => t.deleteColumn? (style?.getD current) index = some t'
  | .moveColumn index dest => t.moveColumn? index dest = some t'

lemma table_ofOption_cases (t : Table) (new? : Option Table) :
    (Outcome.ofOption t new?).table = t ∨ new? = some (Outcome.ofOption t new?).table := by
  cases new? with
  | none => exact .inl rfl
  | some new => exact .inr rfl

/-- An edit that succeeds leaves the table as it was or does what its operation does. -/
lemma apply_cases {current : Style} {t t' : Table} {e : Edit} (h : e.apply current t = .ok t') :
    t' = t ∨ e.Makes current t t' := by
  obtain ⟨outcome, houtcome, rfl⟩ := exists_of_map_eq_ok h
  cases e with
  | complete style? =>
    obtain ⟨completed, hcompleted, rfl⟩ := exists_of_map_eq_ok houtcome
    exact .inr ⟨completed, hcompleted, rfl⟩
  | format style? =>
    obtain ⟨formatted, hformatted, rfl⟩ := exists_of_map_eq_ok houtcome
    exact .inr ⟨formatted, hformatted, rfl⟩
  | alterAlignment column value style? =>
    obtain ⟨new?, hnew, rfl⟩ := exists_of_map_eq_ok houtcome
    refine (table_ofOption_cases t new?).imp_right fun hsome => ?_
    rw [Makes, ← hsome]
    exact hnew
  | insertRow index row =>
    cases houtcome
    exact .inr rfl
  | _ =>
    cases houtcome
    exact table_ofOption_cases t _

/-! ### Edits one after the other -/

lemma applyAll_cons (current : Style) (t : Table) (e : Edit) (rest : List Edit) :
    applyAll current t (e :: rest) = applyAll current (applyAll current t [e]) rest := by
  simp only [applyAll]
  cases e.apply current t <;> rfl

lemma applyAll_append (current : Style) (t : Table) (es rest : List Edit) :
    applyAll current t (es ++ rest) = applyAll current (applyAll current t es) rest := by
  induction es generalizing t with
  | nil => rfl
  | cons e es ih => rw [List.cons_append, applyAll_cons, ih, ← applyAll_cons]

end PipeTable.Edit
