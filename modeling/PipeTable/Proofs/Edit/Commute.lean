import PipeTable.Proofs.Edit.Columns
import PipeTable.Proofs.Edit.Rows

/-!
# Edits that do not get in each other's way

Moving a row brings the rows of the body to other places, and nothing else: the width of the table,
the header and the delimiter row are what they were.  An edit that changes every row on its own, and
all rows of the body alike, therefore does the same before and after it (`moveRow_eq_of_rows`).
Deleting a column, moving one and changing an alignment are such edits.

Changing the alignments of two columns comes to two changes of the delimiter row
(`Row.realigned_comm`).  The second of them has a delimiter row to work on only as long as the first
one writes a bar, which is why the least number of dashes has to be positive there.
-/

namespace PipeTable

/-! ## Moving a row -/

namespace Table

variable {t t' u : Table} {f : Nat → Row → Row} {index dest : Int}

/-- What is made of every row on its own, and of all rows of the body alike, is made of it at any
other place. -/
lemma moveRow_eq_of_rows (hf : ∀ k, bodyStart ≤ k → f k = f bodyStart)
    (ht : ∀ k : Nat, t'.rows[k]? = t.rows[k]?.map (f k))
    (hmoved : ∀ k : Nat, u.rows[k]? = (t.moveRow index dest).rows[k]?.map (f k)) :
    u = t'.moveRow index dest := by
  have hheight : t'.height = t.height := height_eq_of_rows ht
  by_cases h : Sequence.Moves bodyStart t.height index dest
  · have horigin (k : Nat) : f (Sequence.origin index.toNat dest.toNat k) = f k := by
      have hindex := h.first_le_toNat
      have hdest := h.symm.first_le_toNat
      by_cases hk : k < bodyStart
      · rw [Sequence.origin_of_lt (Nat.lt_of_lt_of_le hk hindex) (Nat.lt_of_lt_of_le hk hdest)]
      · have hle := Nat.le_of_not_lt hk
        rw [hf k hle, hf _ (Sequence.le_origin hindex hdest hle)]
    have h' : Sequence.Moves bodyStart t'.height index dest := hheight ▸ h
    refine ext_getElem? fun k => ?_
    rw [hmoved, moveRow_of_moves h, moveRow_of_moves h',
      Sequence.getElem?_move h.toNat_lt h.symm.toNat_lt,
      Sequence.getElem?_move h'.toNat_lt h'.symm.toNat_lt, ht, horigin]
  · rw [moveRow_of_not_moves (hheight ▸ h)]
    refine ext_getElem? fun k => ?_
    rw [hmoved, moveRow_of_not_moves h, ht]

/-! ### What does not move -/

@[simp] lemma headerWidth?_moveRow (t : Table) (index dest : Int) :
    (t.moveRow index dest).headerWidth? = t.headerWidth? := by
  rw [headerWidth?, headerWidth?, List.head?_eq_getElem?, List.head?_eq_getElem?,
    getElem?_moveRow_of_lt t index dest (by decide)]

@[simp] lemma delimiterRow?_moveRow (t : Table) (index dest : Int) :
    (t.moveRow index dest).delimiterRow? = t.delimiterRow? :=
  delimiterRow?_congr (getElem?_moveRow_of_lt t index dest (by decide))

@[simp] lemma isDelimiterAt_moveRow (t : Table) (index dest : Int) (i : Nat) :
    (t.moveRow index dest).isDelimiterAt i = t.isDelimiterAt i := by
  rw [isDelimiterAt, isDelimiterAt, delimiterRow?_moveRow]

@[simp] lemma alignable?_moveRow (t : Table) (index dest column : Int) :
    (t.moveRow index dest).alignable? column = t.alignable? column := by
  rw [alignable?, alignable?, headerWidth?_moveRow, delimiterRow?_moveRow]

lemma isDelimiterAt_of_bodyStart_le (t : Table) {i : Nat} (hi : bodyStart ≤ i) :
    t.isDelimiterAt i = false := by
  rw [isDelimiterAt, decide_eq_false (by rw [bodyStart] at hi; omega), Bool.false_and]

/-! ### Column edits -/

lemma deleteColumn_moveRow (t : Table) (index dest : Int) (style : Style) (column : Int) :
    (t.moveRow index dest).deleteColumn style column =
      (t.deleteColumn style column).moveRow index dest := by
  by_cases h : 0 ≤ column ∧ column < t.width
  · have hmoved : 0 ≤ column ∧ column < (t.moveRow index dest).width := by rwa [width_moveRow]
    rw [deleteColumn_of_lt h, deleteColumn_of_lt hmoved]
    refine moveRow_eq_of_rows (fun k hk => ?_) (getElem?_mapRows _ _ t) fun k => ?_
    · rw [isDelimiterAt_of_bodyStart_le t hk, isDelimiterAt_of_bodyStart_le t (Nat.le_refl _)]
    · rw [getElem?_mapRows, isDelimiterAt_moveRow]
  · have hmoved : ¬(0 ≤ column ∧ column < (t.moveRow index dest).width) := by rwa [width_moveRow]
    rw [((editsRows_deleteColumn style column t).declines h).2,
      ((editsRows_deleteColumn style column _).declines hmoved).2]

lemma moveColumn_moveRow (t : Table) (index dest column column' : Int) :
    (t.moveRow index dest).moveColumn column column' =
      (t.moveColumn column column').moveRow index dest := by
  by_cases h : Sequence.Moves 0 t.width column column'
  · have hmoved : Sequence.Moves 0 (t.moveRow index dest).width column column' := by
      rwa [width_moveRow]
    rw [moveColumn_of_moves h, moveColumn_of_moves hmoved]
    exact moveRow_eq_of_rows (fun k _ => rfl) (fun k => List.getElem?_map) fun k =>
      List.getElem?_map
  · have hmoved : ¬Sequence.Moves 0 (t.moveRow index dest).width column column' := by
      rwa [width_moveRow]
    rw [moveColumn_of_not_moves h, moveColumn_of_not_moves hmoved]

end Table

/-! ## Changing an alignment -/

namespace Row

variable {style : Style} {r : Row} {column column' : Int} {width : Nat}

/-- The row with the alignment of a column changed, if it is a delimiter row and the header, which
has the given width, has the column. -/
def realigned (style : Style) (column : Int) (width : Nat) (a : Alignment) (r : Row) : Row :=
  if r.isDelimiter && Sequence.inBounds column width then r.setBar style column.toNat width a else r

/-- The row has been extended before the second bar is set. -/
lemma setBar_comm (r : Row) (style : Style) {k k' : Nat} (hne : k ≠ k') (width : Nat)
    (a a' : Alignment) :
    (r.setBar style k width a).setBar style k' width a' =
      (r.setBar style k' width a').setBar style k width a := by
  have hextended (k : Nat) (a : Alignment) :
      Sequence.extend (r.setBar style k width a).cells width (fun _ => .bar style.minDashes) =
        (r.setBar style k width a).cells := by
    refine Sequence.extend_of_le ?_ _
    rw [setBar, withCells, List.length_set, Sequence.length_extend]
    exact Nat.le_max_right _ _
  rw [setBar, hextended, setBar, setBar, hextended, setBar]
  exact congrArg r.withCells (List.set_comm _ _ hne)

lemma isDelimiter_realigned (hmin : 1 ≤ style.minDashes) (column : Int) (width : Nat)
    (a : Alignment) (r : Row) : (r.realigned style column width a).isDelimiter = r.isDelimiter := by
  unfold realigned
  split
  · next h =>
    have hr : r.isDelimiter = true := (Bool.and_eq_true_iff.1 h).1
    rw [hr]
    exact isDelimiter_setBar hmin hr column.toNat width a
  · rfl

lemma realigned_comm (hmin : 1 ≤ style.minDashes) (hne : column ≠ column') (a a' : Alignment)
    (width : Nat) (r : Row) :
    (r.realigned style column width a).realigned style column' width a' =
      (r.realigned style column' width a').realigned style column width a := by
  have hbars := fun hr => isDelimiter_setBar (r := r) hmin hr
  by_cases hr : r.isDelimiter
  · by_cases hcolumn : Sequence.inBounds column width <;>
      by_cases hcolumn' : Sequence.inBounds column' width
    · have hplace : column.toNat ≠ column'.toNat := by
        rw [Table.inBounds_iff] at hcolumn hcolumn'
        omega
      simp only [realigned, hr, hcolumn, hcolumn', hbars hr, Bool.and_self, if_true]
      exact setBar_comm r style hplace width a a'
    all_goals simp [realigned, hr, hcolumn, hcolumn', hbars hr]
  · simp [realigned, hr]

end Row

namespace Table

variable {style : Style} {value value' : Value} {a a' : Alignment}

lemma alignable?_eq {t : Table} {second : Row} (h : t.rows[1]? = some second) (column : Int) :
    t.alignable? column =
      if second.isDelimiter && Sequence.inBounds column (t.headerWidth?.getD 0) then some second
      else none := by
  rw [alignable?, delimiterRow?, h, Option.filter_some]
  cases second.isDelimiter <;> cases Sequence.inBounds column (t.headerWidth?.getD 0) <;> rfl

/-- A value that names an alignment is never refused. -/
lemma alterAlignment_of_toAlignment (hvalue : value.toAlignment = .ok a) (style : Style)
    (column : Int) (t : Table) :
    t.alterAlignment style column value =
      .ok ⟨t.rows.modify 1 (Row.realigned style column (t.headerWidth?.getD 0) a)⟩ := by
  rw [alterAlignment, alterAlignment?, List.modify_eq_set_getElem?]
  cases hsecond : t.rows[1]? with
  | none =>
    have hnone : t.alignable? column = none := by
      rw [alignable?, delimiterRow?, hsecond, Option.filter_none, ite_self]
    rw [hnone]
    rfl
  | some second =>
    have hself : t.rows.set 1 second = t.rows := by
      obtain ⟨hlt, rfl⟩ := List.getElem?_eq_some_iff.1 hsecond
      exact List.set_getElem_self hlt
    rw [alignable?_eq hsecond]
    show _ = Except.ok (Table.mk (t.rows.set 1 (Row.realigned _ _ _ _ second)))
    unfold Row.realigned
    by_cases h : (second.isDelimiter && Sequence.inBounds column (t.headerWidth?.getD 0)) = true
    · rw [if_pos h, if_pos h, hvalue]
      rfl
    · rw [if_neg h, if_neg h, hself]
      rfl

/-- A value that names none is refused where it is looked at. -/
lemma alterAlignment_of_error {fault : Fault} (hvalue : value.toAlignment = .error fault)
    (style : Style) (column : Int) (t : Table) :
    t.alterAlignment style column value =
      if (t.alignable? column).isSome then .error fault else .ok t := by
  unfold alterAlignment alterAlignment?
  cases t.alignable? column with
  | none => rfl
  | some d =>
    rw [hvalue]
    rfl

lemma alterAlignment_moveRow (t : Table) (index dest : Int) (style : Style) (column : Int)
    (value : Value) :
    (t.moveRow index dest).alterAlignment style column value =
      (t.alterAlignment style column value).map (·.moveRow index dest) := by
  cases hvalue : value.toAlignment with
  | error fault =>
    rw [alterAlignment_of_error hvalue, alterAlignment_of_error hvalue, alignable?_moveRow]
    split <;> rfl
  | ok a =>
    rw [alterAlignment_of_toAlignment hvalue, alterAlignment_of_toAlignment hvalue,
      headerWidth?_moveRow]
    let f (k : Nat) (r : Row) : Row :=
      if 1 = k then r.realigned style column (t.headerWidth?.getD 0) a else r
    have hf (k : Nat) (hk : bodyStart ≤ k) : f k = f bodyStart := by
      funext r
      simp only [f, bodyStart] at hk ⊢
      rw [if_neg (by omega), if_neg (by omega)]
    exact congrArg Except.ok (moveRow_eq_of_rows hf (fun k => List.getElem?_modify _ 1 _ k)
      fun k => List.getElem?_modify _ 1 _ k)

/-- The delimiter row has a cell in the column, and the cell declares the alignment. -/
def Declares (t : Table) (column : Int) (a : Alignment) : Prop :=
  ∃ d c, t.delimiterRow? = some d ∧ d.cell? column = some c ∧ c.alignment? = some a

lemma declares_alterAlignment (hmin : 1 ≤ style.minDashes) (hvalue : value.toAlignment = .ok a)
    {t t' : Table} {column : Int} (halignable : (t.alignable? column).isSome)
    (h : t.alterAlignment style column value = .ok t') : t'.Declares column a := by
  obtain ⟨d, hd⟩ := Option.isSome_iff_exists.1 halignable
  rw [alterAlignment, alterAlignment?, hd, hvalue] at h
  obtain rfl := Except.ok.inj h
  unfold alignable? at hd
  split at hd
  · next hcolumn =>
    obtain ⟨hpos, hlt⟩ := inBounds_iff.1 hcolumn
    refine ⟨_, ⟨delimiterText a style.minDashes⟩, delimiterRow?_set_setBar hmin hd _ _ a, ?_,
      Cell.alignment?_mk_delimiterText a hmin⟩
    rw [Row.cell?, Sequence.get?, if_pos hpos]
    exact Row.getElem?_setBar_self style (by omega) a d
  · cases hd

lemma headerWidth?_modify_one (t : Table) (g : Row → Row) :
    (Table.mk (t.rows.modify 1 g)).headerWidth? = t.headerWidth? := by
  obtain ⟨rows⟩ := t
  cases rows <;> rfl

/-- An alignment that can be changed can be changed after another one. -/
lemma isSome_alignable?_of_alterAlignment (hmin : 1 ≤ style.minDashes)
    (hvalue : value.toAlignment = .ok a) {t t' : Table} {column : Int}
    (h : t.alterAlignment style column value = .ok t') (column' : Int) :
    (t'.alignable? column').isSome = (t.alignable? column').isSome := by
  rw [alterAlignment_of_toAlignment hvalue] at h
  obtain rfl := Except.ok.inj h
  have hdelimiter : (Table.mk (t.rows.modify 1 (Row.realigned style column
      (t.headerWidth?.getD 0) a))).delimiterRow?.isSome = t.delimiterRow?.isSome := by
    rw [delimiterRow?, delimiterRow?, List.getElem?_modify_eq]
    cases t.rows[1]? with
    | none => rfl
    | some second =>
      rw [Option.map_eq_map, Option.map_some, Option.filter_some, Option.filter_some,
        Row.isDelimiter_realigned hmin]
      split <;> rfl
  unfold alignable?
  rw [headerWidth?_modify_one]
  split
  · exact hdelimiter
  · rfl

/-- An alignment that is changed last is declared in the end. -/
lemma declares_of_bind (hmin : 1 ≤ style.minDashes) (hvalue : value.toAlignment = .ok a)
    (hvalue' : value'.toAlignment = .ok a') {t t' : Table} {column column' : Int}
    (h : (t.alterAlignment style column value >>= (·.alterAlignment style column' value')) =
      .ok t') (halignable : (t.alignable? column').isSome) : t'.Declares column' a' := by
  obtain ⟨u, hu, ht'⟩ := bind_eq_ok_iff.1 h
  refine declares_alterAlignment hmin hvalue' ?_ ht'
  rwa [isSome_alignable?_of_alterAlignment hmin hvalue hu]

/-- Two changes one after the other are one change of the second row. -/
lemma alterAlignment_bind (hvalue : value.toAlignment = .ok a)
    (hvalue' : value'.toAlignment = .ok a') (style : Style) (column column' : Int) (t : Table) :
    (t.alterAlignment style column value >>= (·.alterAlignment style column' value')) =
      .ok ⟨t.rows.modify 1 fun r =>
        (r.realigned style column (t.headerWidth?.getD 0) a).realigned style column'
          (t.headerWidth?.getD 0) a'⟩ := by
  rw [alterAlignment_of_toAlignment hvalue]
  show Table.alterAlignment style column' value' ⟨t.rows.modify 1 _⟩ = _
  rw [alterAlignment_of_toAlignment hvalue', headerWidth?_modify_one, List.modify_modify_eq]
  rfl

end Table

/-- Moving a row goes with deleting and moving columns and with changing an alignment, refused or
not, and two alignments can be changed in either order, after which both of them are declared. -/
theorem edits_commute (t : Table) :
    (∀ index dest : Int,
      (∀ (style : Style) (column : Int), (t.moveRow index dest).deleteColumn style column =
        (t.deleteColumn style column).moveRow index dest) ∧
      (∀ column column' : Int, (t.moveRow index dest).moveColumn column column' =
        (t.moveColumn column column').moveRow index dest) ∧
      ∀ (style : Style) (column : Int) (value : Value),
        (t.moveRow index dest).alterAlignment style column value =
          (t.alterAlignment style column value).map (·.moveRow index dest)) ∧
    ∀ style : Style, 1 ≤ style.minDashes → ∀ (value value' : Value) (a a' : Alignment),
      value.toAlignment = .ok a → value'.toAlignment = .ok a' →
      ∀ column column' : Int, column ≠ column' → ∃ t',
        (t.alterAlignment style column value >>= (·.alterAlignment style column' value')) = .ok t' ∧
        (t.alterAlignment style column' value' >>= (·.alterAlignment style column value)) =
          .ok t' ∧
        ((t.alignable? column).isSome → t'.Declares column a) ∧
        ((t.alignable? column').isSome → t'.Declares column' a') := by
  refine ⟨fun index dest => ⟨t.deleteColumn_moveRow index dest, t.moveColumn_moveRow index dest,
    t.alterAlignment_moveRow index dest⟩, ?_⟩
  intro style hmin value value' a a' hvalue hvalue' column column' hne
  have hfirst := Table.alterAlignment_bind hvalue hvalue' style column column' t
  have hlast := Table.alterAlignment_bind hvalue' hvalue style column' column t
  have hcomm := Row.realigned_comm hmin hne a a' (t.headerWidth?.getD 0)
  rw [← funext hcomm] at hlast
  -- each alignment is declared in the end because one of the orders changes it last
  exact ⟨_, hfirst, hlast, Table.declares_of_bind hmin hvalue' hvalue hlast,
    Table.declares_of_bind hmin hvalue hvalue' hfirst⟩

/-- A row that is wider than the header goes to the front of the body, a column is deleted that no
other row has, and a delimiter row that is too short gets its second bar first or last. -/
theorem edits_commute_ragged :
    ∃ t, t = Table.mk [⟨[], [⟨['a']⟩, ⟨['b']⟩], []⟩, ⟨[], [⟨['-']⟩], []⟩, ⟨[], [⟨['c']⟩], []⟩,
        ⟨[], [⟨['d']⟩, ⟨['e']⟩, ⟨['f']⟩], []⟩] ∧
      (t.moveRow 3 2).deleteColumn .standard 2 = (t.deleteColumn .standard 2).moveRow 3 2 ∧
      t.deleteColumn .standard 2 ≠ t ∧
      (t.moveRow 3 2).alterAlignment .standard 1 (.choice (.headerAlignment .follow)) =
        .error (.unknownAlignment (.choice (.headerAlignment .follow))) ∧
      ∃ t', t'.rows[1]? = some ⟨[], [⟨":--- ".toList⟩, ⟨" ---:".toList⟩], []⟩ ∧
        (t.alterAlignment .standard 1 (.choice (.alignment (.to .right))) >>=
          (·.alterAlignment .standard 0 (.choice (.alignment (.to .left))))) = .ok t' ∧
        (t.alterAlignment .standard 0 (.choice (.alignment (.to .left))) >>=
          (·.alterAlignment .standard 1 (.choice (.alignment (.to .right))))) = .ok t' ∧
        t'.Declares 1 (.to .right) ∧ t'.Declares 0 (.to .left) := by
  refine ⟨_, rfl, ?_⟩
  obtain ⟨hmove, halign⟩ := edits_commute ⟨[⟨[], [⟨['a']⟩, ⟨['b']⟩], []⟩, ⟨[], [⟨['-']⟩], []⟩,
    ⟨[], [⟨['c']⟩], []⟩, ⟨[], [⟨['d']⟩, ⟨['e']⟩, ⟨['f']⟩], []⟩]⟩
  obtain ⟨hdelete, -, hrefused⟩ := hmove 3 2
  obtain ⟨t', hfirst, hlast, hdeclares, hdeclares'⟩ := halign .standard (by decide)
    (.choice (.alignment (.to .right))) (.choice (.alignment (.to .left))) _ _ rfl rfl 1 0
    (by decide)
  refine ⟨hdelete .standard 2, by decide, (hrefused .standard 1 _).trans rfl, t', ?_, hfirst, hlast,
    hdeclares (by decide), hdeclares' (by decide)⟩
  obtain rfl := Except.ok.inj hfirst
  rfl

end PipeTable
