import PipeTable.Proofs.Edit.Origin
import PipeTable.Proofs.Reading.SelfContained

/-!
# Edits of self-contained tables

Every operation makes its table from the cells and rows of the old one, from those it was given, and
from blank cells and bars.  So it leaves a self-contained table self-contained
(`IsSelfContained.apply`), and so do any number of operations one after the other
(`IsSelfContained.applyAll`): whatever was done to such a table, its lines are read back as the
table (`roundTrip_of_isSelfContained`).
-/

namespace PipeTable

variable {rule : MarginRule} {style : Style}

/-! ## Rows -/

namespace Row.IsSelfContained

variable {r : Row}

lemma extend_cells (h : r.IsSelfContained rule) (size : Nat) :
    ∀ c ∈ Sequence.extend r.cells size fun _ => .empty, c.IsSelfContained :=
  Sequence.forall_mem_extend h.cells (fun _ => Cell.isSelfContained_empty) size

lemma insertCell (h : r.IsSelfContained rule) {c : Cell} (hc : c.IsSelfContained) (column : Nat) :
    (r.insertCell column c).IsSelfContained rule := by
  refine h.withCells ?_ ?_
  · intro d hd
    rcases List.eq_or_mem_of_mem_insertIdx hd with rfl | hd
    · exact hc
    · exact h.extend_cells column d hd
  · intro hlen
    rw [List.length_insertIdx_of_le_length (by rw [Sequence.length_extend]; omega)] at hlen
    cases hlen

lemma deleteCell (h : r.IsSelfContained rule) {last : Cell} (hlast : last.IsSelfContained)
    (column : Nat) : (r.deleteCell column last).IsSelfContained rule := by
  unfold Row.deleteCell
  split
  · exact h
  · split
    · refine h.withCells ?_ (fun hlen => absurd hlen Nat.one_ne_zero)
      intro d hd
      rw [List.mem_singleton.1 hd]
      exact hlast
    · next hcolumn hwidth =>
      have hlt : column < r.cells.length := Nat.lt_of_not_le hcolumn
      have hmany : 1 < r.cells.length := Nat.lt_of_not_le hwidth
      refine h.withCells (fun d hd => h.cells d (List.mem_of_mem_eraseIdx hd)) ?_
      intro hlen
      rw [List.length_eraseIdx_of_lt hlt] at hlen
      omega

lemma moveCell (h : r.IsSelfContained rule) (column dest : Nat) :
    (r.moveCell column dest).IsSelfContained rule := by
  refine h.withCells (fun d hd => h.extend_cells _ d (Sequence.mem_of_mem_move hd)) ?_
  intro hlen
  rw [Sequence.length_move (by rw [Sequence.length_extend]; omega), Sequence.length_extend] at hlen
  omega

lemma setBar (h : r.IsSelfContained rule) (style : Style) (column width : Nat) (a : Alignment) :
    (r.setBar style column width a).IsSelfContained rule := by
  refine h.withCells ?_ ?_
  · intro d hd
    rcases List.mem_or_eq_of_mem_set hd with hd | rfl
    · exact Sequence.forall_mem_extend h.cells
        (fun _ => Cell.isSelfContained_delimiterText .unset _) width d hd
    · exact Cell.isSelfContained_delimiterText a _
  · intro hlen
    rw [List.length_set, Sequence.length_extend] at hlen
    omega

end Row.IsSelfContained

/-! ## Tables -/

namespace Table.IsSelfContained

variable {t t' : Table}

/-! ### Completing and formatting -/

lemma complete (h : t.IsSelfContained rule) {completed : Completed}
    (hcompleted : t.complete style = .ok completed) : completed.table.IsSelfContained rule := by
  obtain ⟨p, hp, rfl⟩ := exists_of_complete hcompleted
  have hrow {r : Row} (hr : r = p.header ∨ p.delimiter? = some r ∨ r ∈ p.body) :
      r.IsSelfContained rule := by
    apply h
    rw [← toTable_of_parts? hp]
    exact Parts.mem_toTable.2 hr
  intro s hs
  rcases Parts.mem_toTable.1 hs with rfl | hd | hb
  · exact (hrow (.inl rfl)).complete t.width
  · cases hdelimiter : p.delimiter? with
    | none =>
      simp only [Parts.complete, hdelimiter, Option.some.injEq] at hd
      rw [← hd]
      exact Row.isSelfContained_bars style t.width
    | some d =>
      simp only [Parts.complete, hdelimiter, Option.some.injEq] at hd
      rw [← hd]
      exact (hrow (.inr (.inl hdelimiter))).completeBars style t.width
  · obtain ⟨r, hr, rfl⟩ := List.mem_map.1 hb
    exact (hrow (.inr (.inr hr))).complete t.width

lemma collapse {header : Row} (hheader : header.IsSelfContained rule) (t : Table) :
    (t.collapse header.marginLeft).IsSelfContained rule := by
  intro s hs
  obtain ⟨r, -, rfl⟩ := List.mem_map.1 hs
  exact Row.isSelfContained_of_cells hheader rfl rfl fun c hc => absurd hc List.not_mem_nil

lemma format (h : t.IsSelfContained rule) {formatted : Formatted}
    (hformatted : t.format style = .ok formatted) : formatted.table.IsSelfContained rule := by
  rcases format_cases hformatted with ⟨-, rfl⟩ | ⟨p, hp, hcases⟩
  · exact h
  · have hrow {r : Row} (hr : r ∈ p.toTable.rows) : r.IsSelfContained rule := by
      rw [toTable_of_parts? hp] at hr
      exact h r hr
    have hheader : p.header.IsSelfContained rule := hrow (Parts.mem_toTable.2 (.inl rfl))
    rcases hcases with ⟨-, rfl⟩ | ⟨-, q, hq, rfl⟩
    · exact collapse hheader t
    · intro s hs
      rcases (Parts.reshaped_of_formatBy hq).of_mem hs with ⟨r, hr, hrs⟩ | ⟨d, -, hds⟩
      · exact hrs.isSelfContained hheader (hrow (Parts.mem_toTable_of_mem_contentRows hr))
      · exact hds.isSelfContained hheader

/-! ### Rows and columns -/

lemma alterAlignment? (h : t.IsSelfContained rule) {column : Int} {value : Value}
    (haltered : t.alterAlignment? style column value = .ok (some t')) :
    t'.IsSelfContained rule := by
  obtain ⟨d, hmem, a, -, rfl⟩ := exists_of_alterAlignment? haltered
  intro s hs
  rcases List.mem_or_eq_of_mem_set hs with hs | rfl
  · exact h s hs
  · exact (h d hmem).setBar style _ _ a

lemma insertRow (h : t.IsSelfContained rule) {r : Row} (hr : r.IsSelfContained rule)
    (index : Int) : (t.insertRow index r).IsSelfContained rule := by
  intro s hs
  rcases of_mem_insertRow hs with rfl | hs
  · exact hr
  · exact h s hs

lemma deleteRow? (h : t.IsSelfContained rule) {index : Int}
    (hdeleted : t.deleteRow? index = some t') : t'.IsSelfContained rule := by
  intro s hs
  rcases of_mem_deleteRow? hdeleted hs with hs | ⟨header, hheader, rfl⟩
  · exact h s hs
  · refine (h header hheader).withCells ?_ (by rw [List.length_map]; exact id)
    intro c hc
    obtain ⟨-, -, rfl⟩ := List.mem_map.1 hc
    exact Cell.isSelfContained_empty

lemma moveRow? (h : t.IsSelfContained rule) {index dest : Int}
    (hmoved : t.moveRow? index dest = some t') : t'.IsSelfContained rule :=
  fun s hs => h s (of_mem_moveRow? hmoved hs)

/-- A column of self-contained cells, filled up with blank ones and with a bar. -/
lemma newCells (style : Style) {cells : List Cell} (hcells : ∀ c ∈ cells, c.IsSelfContained)
    (t : Table) : ∀ c ∈ t.newCells style cells, c.IsSelfContained := by
  unfold Table.newCells
  split
  · intro c hc
    rcases List.mem_cons.1 hc with rfl | hc
    · cases cells with
      | nil => exact Cell.isSelfContained_empty
      | cons first rest => exact hcells first List.mem_cons_self
    · rcases List.mem_cons.1 hc with rfl | hc
      · exact Cell.isSelfContained_delimiterText .unset _
      · exact Sequence.forall_mem_extend (fun d hd => hcells d (List.mem_of_mem_tail hd))
          (fun _ => Cell.isSelfContained_empty) _ c hc
  · exact Sequence.forall_mem_extend hcells (fun _ => Cell.isSelfContained_empty) _

lemma insertColumn? (h : t.IsSelfContained rule) {cells : List Cell}
    (hcells : ∀ c ∈ cells, c.IsSelfContained) {index : Int}
    (hinserted : t.insertColumn? style index cells = some t') : t'.IsSelfContained rule := by
  intro s hs
  obtain ⟨r, hr, c, hc, rfl⟩ := of_mem_insertColumn? hinserted hs
  exact (h r hr).insertCell (newCells style hcells t c hc) _

lemma deleteColumn? (h : t.IsSelfContained rule) {index : Int}
    (hdeleted : t.deleteColumn? style index = some t') : t'.IsSelfContained rule := by
  intro s hs
  obtain ⟨r, hr, rfl | rfl⟩ := of_mem_deleteColumn? hdeleted hs
  · exact (h r hr).deleteCell Cell.isSelfContained_empty _
  · exact (h r hr).deleteCell (Cell.isSelfContained_delimiterText .unset _) _

lemma moveColumn? (h : t.IsSelfContained rule) {index dest : Int}
    (hmoved : t.moveColumn? index dest = some t') : t'.IsSelfContained rule := by
  intro s hs
  obtain ⟨r, hr, rfl⟩ := of_mem_moveColumn? hmoved hs
  exact (h r hr).moveCell _ _

end Table.IsSelfContained

/-! ## Edits -/

/-- An edit that brings in nothing but self-contained cells and margins. -/
def Edit.IsSelfContained (rule : MarginRule) : Edit → Prop
  | .insertRow _ row => row.IsSelfContained rule
  | .insertColumn _ cells _ => ∀ c ∈ cells, c.IsSelfContained
  | _ => True

namespace Table.IsSelfContained

variable {t t' : Table}

/-- An edit that succeeds keeps a table self-contained. -/
lemma apply (h : t.IsSelfContained rule) (current : Style) {e : Edit} (he : e.IsSelfContained rule)
    (happly : e.apply current t = .ok t') : t'.IsSelfContained rule := by
  rcases Edit.apply_cases happly with rfl | hmakes
  · exact h
  cases e with
  | complete style? =>
    obtain ⟨completed, hcompleted, rfl⟩ := hmakes
    exact h.complete hcompleted
  | format style? =>
    obtain ⟨formatted, hformatted, rfl⟩ := hmakes
    exact h.format hformatted
  | alterAlignment column value style? => exact h.alterAlignment? hmakes
  | insertRow index row =>
    rw [← show _ = t' from hmakes]
    exact h.insertRow he index
  | deleteRow index => exact h.deleteRow? hmakes
  | moveRow index dest => exact h.moveRow? hmakes
  | insertColumn index cells style? => exact h.insertColumn? he hmakes
  | deleteColumn index style? => exact h.deleteColumn? hmakes
  | moveColumn index dest => exact h.moveColumn? hmakes

/-- Edits one after the other keep a table self-contained, those that fail as well. -/
lemma applyAll (h : t.IsSelfContained rule) (current : Style) {es : List Edit}
    (hes : ∀ e ∈ es, e.IsSelfContained rule) :
    (Edit.applyAll current t es).IsSelfContained rule := by
  induction es generalizing t with
  | nil => exact h
  | cons e rest ih =>
    have hrest : ∀ e ∈ rest, e.IsSelfContained rule :=
      fun e' he' => hes e' (List.mem_cons_of_mem e he')
    unfold Edit.applyAll
    cases happly : e.apply current t with
    | error fault => exact ih h hrest
    | ok new => exact ih (h.apply current (hes e List.mem_cons_self) happly) hrest

end Table.IsSelfContained

/-- The lines of a self-contained table are read back as the table, and no edit that brings in
self-contained cells changes that, nor do any number of them. -/
theorem roundTrip_of_isSelfContained (hrule : rule.IsSingle) {t : Table}
    (h : t.IsSelfContained rule) :
    readTable rule t.lines = t ∧
      (∀ (current : Style) (e : Edit) (t' : Table), e.IsSelfContained rule →
        e.apply current t = .ok t' → t'.IsSelfContained rule) ∧
      ∀ (current : Style) (es : List Edit), (∀ e ∈ es, e.IsSelfContained rule) →
        (Edit.applyAll current t es).IsSelfContained rule ∧
          readTable rule (Edit.applyAll current t es).lines = Edit.applyAll current t es := by
  refine ⟨h.readTable_lines hrule, fun current e t' he => h.apply current he, ?_⟩
  intro current es hes
  have hall := h.applyAll current hes
  exact ⟨hall, hall.readTable_lines hrule⟩

/-- A quoted table with an escaped pipe, a pipe in a code span and an escaped space, which gets a
column and is formatted. -/
theorem roundTrip_of_isSelfContained_quoted :
    readTable ⟨.ofList [['>']]⟩
      (Edit.applyAll .standard
        ⟨[⟨"> ".toList, [⟨"a\\|b".toList⟩, ⟨"`c|d`".toList⟩], []⟩,
          ⟨[], [⟨"e\\ ".toList⟩], " ".toList⟩]⟩
        [.insertColumn 1 [⟨"f".toList⟩] none, .format none]).lines =
      Edit.applyAll .standard
        ⟨[⟨"> ".toList, [⟨"a\\|b".toList⟩, ⟨"`c|d`".toList⟩], []⟩,
          ⟨[], [⟨"e\\ ".toList⟩], " ".toList⟩]⟩
        [.insertColumn 1 [⟨"f".toList⟩] none, .format none] := by
  have h : Table.IsSelfContained ⟨.ofList [['>']]⟩
      ⟨[⟨"> ".toList, [⟨"a\\|b".toList⟩, ⟨"`c|d`".toList⟩], []⟩,
        ⟨[], [⟨"e\\ ".toList⟩], " ".toList⟩]⟩ := by decide
  obtain ⟨-, -, hall⟩ := roundTrip_of_isSelfContained (by decide) h
  refine (hall .standard _ ?_).2
  intro e he
  simp only [List.mem_cons, List.not_mem_nil, or_false] at he
  rcases he with rfl | rfl
  · intro c hc
    rw [List.mem_singleton.1 hc]
    decide
  · trivial

end PipeTable
