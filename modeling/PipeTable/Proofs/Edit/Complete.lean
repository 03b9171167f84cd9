import PipeTable.Proofs.Completion
import PipeTable.Proofs.Edit.Columns
import PipeTable.Proofs.Formatting.Reshape

/-!
# Edits of complete tables

A complete table has a header and a delimiter row, and all its rows have the same number of cells,
at least one.  Completing makes any table with a cell complete (`isComplete_complete`), and every
edit keeps a complete table complete, provided that it brings in no row of another width and no bar
without dashes (`IsComplete.apply`).  So there is nothing left to complete after any number of
edits, whatever their indices and whichever of them fail (`isComplete_applyAll`).

How many cells a column edit leaves a row with is said in `PipeTable.Proofs.Edit.Columns`; the
delimiter row is the subject of `PipeTable.Proofs.Edit.Delimiter`.
-/

namespace PipeTable

/-! ## Complete tables -/

/-- A table with a header and a delimiter row, all rows of which are equally wide. -/
structure Table.IsComplete (t : Table) : Prop where
  two_le_height : 2 ≤ t.height
  width_pos : 0 < t.width
  width_eq : ∀ r ∈ t.rows, r.width = t.width
  delimiter : t.delimiterRow?.isSome

namespace Table

variable {style : Style} {t t' : Table} {d : Row} {index dest : Int}

/-- A table is complete if it has a delimiter row and its rows are equally wide. -/
lemma isComplete_of_width (width : Nat) (hd : t.delimiterRow? = some d)
    (h : ∀ r ∈ t.rows, r.width = width) : t.IsComplete := by
  obtain ⟨hsecond, hdelimiter⟩ := delimiterRow?_eq_some_iff.1 hd
  have hmem : d ∈ t.rows := List.mem_of_getElem? hsecond
  have hwidth : t.width = width := width_eq_of_forall (List.ne_nil_of_mem hmem) h
  refine ⟨(List.getElem?_eq_some_iff.1 hsecond).1, ?_, ?_, by rw [hd]; rfl⟩
  · rw [hwidth, ← h d hmem]
    exact Row.width_pos_of_isDelimiter hdelimiter
  · rwa [hwidth]

/-- Completing a table with a cell, and with at least one dash in a bar, makes it complete. -/
lemma isComplete_complete (hmin : 1 ≤ style.minDashes) (hwidth : 0 < t.width) :
    ∃ completed, t.complete style = .ok completed ∧ completed.table.IsComplete := by
  obtain ⟨p, hp⟩ := exists_parts?_eq (rows_ne_nil_of_width_pos hwidth)
  obtain ⟨d, hd, hdelimiter⟩ := Parts.exists_delimiter_complete hmin hwidth
    fun d hd => isDelimiter_of_parts? hp hd
  have hcompleted := complete_eq_of_parts? style hp
  refine ⟨_, hcompleted, ?_⟩
  refine isComplete_of_width (d := d) t.width ?_ fun r hr => width_of_mem_completed hcompleted hr
  rw [← delimiter?_of_parts? (parts?_toTable hd hdelimiter), hd]

namespace IsComplete

lemma exists_delimiterRow? (h : t.IsComplete) :
    ∃ d, t.delimiterRow? = some d ∧ d.width = t.width := by
  obtain ⟨d, hd⟩ := Option.isSome_iff_exists.1 h.delimiter
  have hsecond := (delimiterRow?_eq_some_iff.1 hd).1
  exact ⟨d, hd, h.width_eq d (List.mem_of_getElem? hsecond)⟩

/-- There is nothing to complete in a complete table. -/
lemma complete_eq (h : t.IsComplete) (style : Style) : t.complete style = .ok ⟨t, false⟩ := by
  obtain ⟨d, hd, -⟩ := h.exists_delimiterRow?
  have hne : t.rows ≠ [] := by
    rw [← List.length_pos_iff]
    exact Nat.lt_of_lt_of_le Nat.two_pos h.two_le_height
  obtain ⟨p, hp⟩ := exists_parts?_eq hne
  have hdelimiter : p.delimiter? = some d := by rw [delimiter?_of_parts? hp, hd]
  have hcomplete : p.complete style t.width = p := by
    refine Parts.complete_of_width_le hdelimiter ?_ style
    intro r hr
    rw [toTable_of_parts? hp] at hr
    exact Nat.le_of_eq (h.width_eq r hr).symm
  rw [complete, hp]
  dsimp only
  rw [hcomplete, toTable_of_parts? hp, hdelimiter]
  rfl

/-! ## Edits -/

lemma format (h : t.IsComplete) (hmin : 1 ≤ style.minDashes) {formatted : Formatted}
    (hformatted : t.format style = .ok formatted) : formatted.table.IsComplete := by
  obtain ⟨d, hd, -⟩ := h.exists_delimiterRow?
  rcases format_cases hformatted with ⟨-, rfl⟩ | ⟨p, hp, ⟨hcells, -⟩ | ⟨-, q, hq, rfl⟩⟩
  · exact h
  · -- the header of a complete table has cells
    have hheader := h.width_eq p.header (List.mem_of_mem_head? (header_of_parts? hp))
    have hpos := h.width_pos
    rw [Row.width, hcells] at hheader
    exact absurd hheader (Nat.ne_of_lt hpos)
  · have hreshaped := Parts.reshaped_of_formatBy hq
    have hdelimiter : p.delimiter? = some d := by rw [delimiter?_of_parts? hp, hd]
    have hbars : d.isDelimiter := isDelimiter_of_parts? hp hdelimiter
    have hrow : ∀ r ∈ p.toTable.rows, r.width = t.width := by
      rw [toTable_of_parts? hp]
      exact h.width_eq
    have hrel := hreshaped.delimiter
    rw [hdelimiter] at hrel
    obtain ⟨e, he, hde⟩ := exists_of_rel_left hrel
    refine isComplete_of_width (d := e) t.width ?_ ?_
    · have hparts : q.toTable.parts? = some q :=
        parts?_toTable he (hde.isDelimiter hmin (Row.isDelimiter_iff.1 hbars).1)
      rw [← delimiter?_of_parts? hparts, he]
    · intro s hs
      rcases hreshaped.of_mem hs with ⟨r, hr, hrs⟩ | ⟨b, hb, hbs⟩
      · rw [hrs.width_eq, hrow r (Parts.mem_toTable_of_mem_contentRows hr)]
      · rw [hbs.width_eq, hrow b (Parts.mem_toTable.2 (.inr (.inl hb)))]

lemma alterAlignment? (h : t.IsComplete) (hmin : 1 ≤ style.minDashes) {column : Int}
    {value : Value} (haltered : t.alterAlignment? style column value = .ok (some t')) :
    t'.IsComplete := by
  obtain ⟨d, hmem, a, hd, rfl⟩ := exists_of_alterAlignment? haltered
  have hheader : t.headerWidth?.getD 0 ≤ d.width := by
    rw [h.width_eq d hmem, headerWidth?]
    cases hhead : t.rows.head? with
    | none => exact Nat.zero_le _
    | some header => exact Nat.le_of_eq (h.width_eq header (List.mem_of_mem_head? hhead))
  refine isComplete_of_width t.width (delimiterRow?_set_setBar hmin hd _ _ a) ?_
  intro s hs
  rcases List.mem_or_eq_of_mem_set hs with hs | rfl
  · exact h.width_eq s hs
  · rw [Row.width_setBar, Nat.max_eq_left hheader, h.width_eq d hmem]

lemma insertRow (h : t.IsComplete) {r : Row} (hr : r.width = t.width) (index : Int) :
    (t.insertRow index r).IsComplete := by
  obtain ⟨d, hd, -⟩ := h.exists_delimiterRow?
  refine isComplete_of_width t.width (delimiterRow?_insertRow hd index r) ?_
  intro s hs
  rcases of_mem_insertRow hs with rfl | hs
  · exact hr
  · exact h.width_eq s hs

lemma deleteRow? (h : t.IsComplete) (hdeleted : t.deleteRow? index = some t') :
    t'.IsComplete := by
  obtain ⟨d, hd, -⟩ := h.exists_delimiterRow?
  rw [← delimiterRow?_deleteRow? hdeleted] at hd
  refine isComplete_of_width t.width hd ?_
  intro s hs
  rcases of_mem_deleteRow? hdeleted hs with hs | ⟨header, hheader, rfl⟩
  · exact h.width_eq s hs
  · rw [Row.width_withCells, List.length_map]
    exact h.width_eq header hheader

lemma moveRow? (h : t.IsComplete) (hmoved : t.moveRow? index dest = some t') :
    t'.IsComplete := by
  obtain ⟨d, hd, -⟩ := h.exists_delimiterRow?
  rw [← delimiterRow?_moveRow? hmoved] at hd
  exact isComplete_of_width t.width hd fun s hs => h.width_eq s (of_mem_moveRow? hmoved hs)

lemma insertColumn? (h : t.IsComplete) (hmin : 1 ≤ style.minDashes) {cells : List Cell}
    (hinserted : t.insertColumn? style index cells = some t') : t'.IsComplete := by
  obtain ⟨d, hd, hwidth⟩ := h.exists_delimiterRow?
  obtain ⟨-, hindex⟩ := bounds_of_insertColumn? hinserted
  have hdelimiter := delimiterRow?_insertColumn? hmin hd (hwidth ▸ hindex) hinserted
  refine isComplete_of_width (t.width + 1) hdelimiter ?_
  intro s hs
  obtain ⟨r, hr, c, -, rfl⟩ := of_mem_insertColumn? hinserted hs
  have hrow := h.width_eq r hr
  rw [Row.width_insertCell, hrow]
  omega

lemma deleteColumn? (h : t.IsComplete) (hmin : 1 ≤ style.minDashes)
    (hdeleted : t.deleteColumn? style index = some t') : t'.IsComplete := by
  obtain ⟨d, hd, -⟩ := h.exists_delimiterRow?
  obtain ⟨hzero, hindex⟩ := bounds_of_deleteColumn? hdeleted
  have hdelimiter := delimiterRow?_deleteColumn? hmin hd hdeleted
  refine isComplete_of_width (max (t.width - 1) 1) hdelimiter ?_
  intro s hs
  obtain ⟨r, hr, hrs⟩ := of_mem_deleteColumn? hdeleted hs
  have hrow := h.width_eq r hr
  have hcolumn : ¬r.width ≤ index.toNat := by omega
  rcases hrs with rfl | rfl <;> rw [Row.width_deleteCell, if_neg hcolumn, hrow]

lemma moveColumn? (h : t.IsComplete) (hmoved : t.moveColumn? index dest = some t') :
    t'.IsComplete := by
  obtain ⟨d, hd, hwidth⟩ := h.exists_delimiterRow?
  obtain ⟨⟨-, hindex⟩, -, hdest⟩ := bounds_of_moveColumn? hmoved
  have hdelimiter := delimiterRow?_moveColumn? hd (hwidth ▸ hindex) (hwidth ▸ hdest) hmoved
  have hpos := h.width_pos
  refine isComplete_of_width t.width hdelimiter ?_
  intro s hs
  obtain ⟨r, hr, rfl⟩ := of_mem_moveColumn? hmoved hs
  have hrow := h.width_eq r hr
  rw [Row.width_moveCell, hrow]
  omega

end IsComplete

end Table

/-! ## Runs of edits -/

namespace Edit

/-- An edit that suits a complete table of the given width: a row that it inserts has as many cells,
and a style of its own asks for at least one dash. -/
def Fits (width : Nat) : Edit → Prop
  | .insertRow _ row => row.width = width
  | .complete style? | .format style? | .alterAlignment _ _ style? | .insertColumn _ _ style?
  | .deleteColumn _ style? => ∀ style ∈ style?, 1 ≤ style.minDashes
  | .deleteRow _ | .moveRow _ _ | .moveColumn _ _ => True

/-- Edits in a row each of which suits the table that it finds. -/
def AllFit (current : Style) : Table → List Edit → Prop
  | _, [] => True
  | t, e :: rest => e.Fits t.width ∧ AllFit current (applyAll current t [e]) rest

end Edit

namespace Table

variable {current style : Style} {t t' : Table}

lemma minDashes_getD (hcurrent : 1 ≤ current.minDashes) {style? : Option Style}
    (h : ∀ style ∈ style?, 1 ≤ style.minDashes) : 1 ≤ (style?.getD current).minDashes := by
  cases style? with
  | none => exact hcurrent
  | some style => exact h style rfl

namespace IsComplete

/-- An edit that succeeds keeps a complete table complete. -/
lemma apply (h : t.IsComplete) (hcurrent : 1 ≤ current.minDashes) {e : Edit}
    (he : e.Fits t.width) (happly : e.apply current t = .ok t') : t'.IsComplete := by
  rcases Edit.apply_cases happly with rfl | hmakes
  · exact h
  cases e with
  | complete style? =>
    obtain ⟨completed, hcompleted, rfl⟩ := hmakes
    rw [h.complete_eq] at hcompleted
    cases hcompleted
    exact h
  | format style? =>
    obtain ⟨formatted, hformatted, rfl⟩ := hmakes
    exact h.format (minDashes_getD hcurrent he) hformatted
  | alterAlignment column value style? =>
    exact h.alterAlignment? (minDashes_getD hcurrent he) hmakes
  | insertRow index row =>
    rw [← show _ = t' from hmakes]
    exact h.insertRow he index
  | deleteRow index => exact h.deleteRow? hmakes
  | moveRow index dest => exact h.moveRow? hmakes
  | insertColumn index cells style? => exact h.insertColumn? (minDashes_getD hcurrent he) hmakes
  | deleteColumn index style? => exact h.deleteColumn? (minDashes_getD hcurrent he) hmakes
  | moveColumn index dest => exact h.moveColumn? hmakes

lemma applyAll_singleton (h : t.IsComplete) (hcurrent : 1 ≤ current.minDashes) {e : Edit}
    (he : e.Fits t.width) : (Edit.applyAll current t [e]).IsComplete := by
  unfold Edit.applyAll
  cases happly : e.apply current t with
  | error fault => exact h
  | ok new => exact h.apply hcurrent he happly

/-- Edits one after the other keep a complete table complete, those that fail as well. -/
lemma applyAll (h : t.IsComplete) (hcurrent : 1 ≤ current.minDashes) {es : List Edit}
    (hes : Edit.AllFit current t es) : (Edit.applyAll current t es).IsComplete := by
  induction es generalizing t with
  | nil => exact h
  | cons e rest ih =>
    rw [Edit.applyAll_cons]
    exact ih (h.applyAll_singleton hcurrent hes.1) hes.2

end IsComplete

end Table

/-- A table with a cell that is completed stays complete however it is edited: after any edits that
bring in rows of its width and bars with dashes, completing it again adds nothing. -/
theorem isComplete_applyAll {style : Style} {t : Table} (hmin : 1 ≤ style.minDashes)
    (hwidth : 0 < t.width) :
    ∃ completed, t.complete style = .ok completed ∧
      ∀ (current : Style) (es : List Edit), 1 ≤ current.minDashes →
        Edit.AllFit current completed.table es →
          (Edit.applyAll current completed.table es).IsComplete ∧
            ∀ again : Style, (Edit.applyAll current completed.table es).complete again =
              .ok ⟨Edit.applyAll current completed.table es, false⟩ := by
  obtain ⟨completed, hcompleted, hcomplete⟩ := Table.isComplete_complete hmin hwidth
  refine ⟨completed, hcompleted, ?_⟩
  intro current es hcurrent hes
  have hall := hcomplete.applyAll hcurrent hes
  exact ⟨hall, hall.complete_eq⟩

/-- A ragged table that loses both its columns and its header, gets a row and a column, has the
columns exchanged, and keeps its delimiter row when that is deleted. -/
theorem isComplete_applyAll_ragged :
    (Edit.applyAll .standard
      ⟨[⟨[], [⟨"a".toList⟩, ⟨"b".toList⟩], []⟩, ⟨[], [.bar 3, .bar 3], []⟩,
        ⟨[], [⟨"c".toList⟩, ⟨" ".toList⟩], []⟩]⟩
      [.deleteColumn 1 none, .deleteColumn 0 none, .insertRow 0 ⟨[], [⟨"d".toList⟩], []⟩,
        .deleteRow 0, .insertColumn 1 [⟨"e".toList⟩] none, .moveColumn 0 1,
        .deleteRow 1]).IsComplete := by
  obtain ⟨completed, hcompleted, hall⟩ := @isComplete_applyAll .standard
    ⟨[⟨[], [⟨"a".toList⟩, ⟨"b".toList⟩], []⟩, ⟨[], [⟨"c".toList⟩], " ".toList⟩]⟩
    (by decide) (by decide)
  cases hcompleted
  refine (hall .standard _ (by decide) ?_).1
  have hnone (style : Style) (h : style ∈ (none : Option Style)) : 1 ≤ style.minDashes :=
    absurd h (Option.not_mem_none style)
  exact ⟨hnone, hnone, rfl, trivial, hnone, trivial, trivial, trivial⟩

end PipeTable
