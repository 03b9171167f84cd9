import Mathlib.Algebra.Order.Group.Multiset
import PipeTable.Proofs.Edit.Origin
import PipeTable.Proofs.Sequence.Move
import PipeTable.Proofs.Table

/-!
# Row edits and the rows that stay

Inserting, deleting and moving rows is for the body, which begins with the third row.  The two rows
before it stay where they are, and so do all rows of the body but the one that an edit is about.
`Table.RowStep` says what becomes of the body by naming what stands before and behind that row
(`Sequence.PutIn`), and `rowStep_applyAll` that an edit of rows comes to nothing else.

The main statement, `applyAll_rowEdits`, follows the table through any number of such edits.  No row
of the body gets lost on the way: those that are there in the end and those that were deleted are
together those that were there at first and those that were inserted.
-/

namespace PipeTable

/-! ## Elements that are put in -/

namespace Sequence

variable {α : Type} {l l' : List α} {place : Nat} {x : α}

/-- The second list is the first one with an element put in at a place. -/
def PutIn (place : Nat) (x : α) (l l' : List α) : Prop :=
  ∃ before after, before.length = place ∧ l = before ++ after ∧ l' = before ++ x :: after

lemma PutIn.perm (h : PutIn place x l l') : l'.Perm (x :: l) := by
  obtain ⟨before, after, -, rfl, rfl⟩ := h
  exact List.perm_middle

lemma PutIn.getElem?_eq (h : PutIn place x l l') : l'[place]? = some x := by
  obtain ⟨before, after, rfl, -, rfl⟩ := h
  rw [List.getElem?_append_right (Nat.le_refl _), Nat.sub_self]
  rfl

lemma putIn_insertIdx (h : place ≤ l.length) (x : α) : PutIn place x l (l.insertIdx place x) := by
  induction place generalizing l with
  | zero => exact ⟨[], l, rfl, rfl, rfl⟩
  | succ place ih =>
    obtain ⟨y, l, rfl⟩ := List.exists_cons_of_length_pos (Nat.zero_lt_of_lt h)
    obtain ⟨before, after, hlen, hl, hputIn⟩ := ih (Nat.le_of_succ_le_succ h)
    refine ⟨y :: before, after, congrArg Nat.succ hlen, congrArg (y :: ·) hl, ?_⟩
    rw [List.insertIdx_succ_cons, hputIn]
    rfl

lemma putIn_eraseIdx (h : place < l.length) : PutIn place l[place] (l.eraseIdx place) l := by
  have hplace : place ≤ (l.eraseIdx place).length := by
    rw [List.length_eraseIdx_of_lt h]
    omega
  have hputIn := putIn_insertIdx hplace l[place]
  rwa [List.insertIdx_eraseIdx_getElem h] at hputIn

/-- A moved element is taken out at one place and put in at the other. -/
lemma putIn_move {index dest : Nat} (hindex : index < l.length) (hdest : dest < l.length) :
    ∃ x rest, PutIn index x rest l ∧ PutIn dest x rest (move l index dest) := by
  refine ⟨l[index], l.eraseIdx index, putIn_eraseIdx hindex, ?_⟩
  rw [move, List.getElem?_eq_getElem hindex]
  refine putIn_insertIdx ?_ l[index]
  rw [List.length_eraseIdx_of_lt hindex]
  omega

end Sequence

/-! ## Fixed rows and body -/

/-- The row with all its cells emptied. -/
def Row.blanked (r : Row) : Row := ⟨r.marginLeft, List.replicate r.width .empty, r.marginRight⟩

@[simp] lemma Row.blanked_blanked (r : Row) : r.blanked.blanked = r.blanked := by
  simp [blanked, width]

namespace Table

open Sequence

variable {t t' : Table} {index dest : Int}

/-- The rows that may be inserted, deleted and moved. -/
def body (t : Table) : List Row := t.rows.drop bodyStart

/-- The rows that stay where they are. -/
def fixedRows (t : Table) : List Row := t.rows.take bodyStart

lemma exists_rows_eq (h : 2 ≤ t.height) :
    ∃ header second body, t = ⟨header :: second :: body⟩ := by
  obtain ⟨rows⟩ := t
  match rows with
  | [] | [_] => simp [height] at h
  | header :: second :: body => exact ⟨header, second, body, rfl⟩

/-- What an edit of rows makes of a table. -/
inductive RowStep (t : Table) : Edit → Table → Prop
  /-- A row is put in at its index, or at the nearest end of the body. -/
  | inserted {index : Int} {r : Row} {place : Nat} {t' : Table}
      (hplace : (place + bodyStart : Int) = min (max index bodyStart) t.height)
      (hfixed : t'.fixedRows = t.fixedRows) (hbody : PutIn place r t.body t'.body) :
      RowStep t (.insertRow index r) t'
  /-- The header is emptied, and all other rows are kept. -/
  | blanked {header : Row} {rest : List Row} (hrows : t.rows = header :: rest) :
      RowStep t (.deleteRow 0) ⟨header.blanked :: rest⟩
  /-- The row of the index is taken out of the body. -/
  | deleted {place : Nat} {r : Row} {t' : Table} (hfixed : t'.fixedRows = t.fixedRows)
      (hbody : PutIn place r t'.body t.body) : RowStep t (.deleteRow (place + bodyStart)) t'
  /-- The row of one index is taken out of the body and put in at the other. -/
  | moved {place destPlace : Nat} {r : Row} {rest : List Row} {t' : Table} (hne : place ≠ destPlace)
      (hfixed : t'.fixedRows = t.fixedRows) (hbody : PutIn place r rest t.body)
      (hdest : PutIn destPlace r rest t'.body) :
      RowStep t (.moveRow (place + bodyStart) (destPlace + bodyStart)) t'
  /-- The row of the index cannot be deleted. -/
  | notDeleted {index : Int} (h : index < 0 ∨ index = 1 ∨ t.height ≤ index) :
      RowStep t (.deleteRow index) t
  /-- One of the rows is not in the body, or they are the same one. -/
  | notMoved {index dest : Int} (h : ¬Moves bodyStart t.height index dest) :
      RowStep t (.moveRow index dest) t

/-! ## Steps -/

lemma moves_iff : (index ≠ dest && t.isMovable index && t.isMovable dest) = true ↔
    Moves bodyStart t.height index dest := by
  simp only [isMovable, Bool.and_eq_true, decide_eq_true_eq]
  constructor
  · rintro ⟨⟨hne, hindex, hheight⟩, hdest, hheight'⟩
    exact ⟨hne, hindex, hheight, hdest, hheight'⟩
  · rintro ⟨hne, hindex, hheight, hdest, hheight'⟩
    exact ⟨⟨hne, hindex, hheight⟩, hdest, hheight'⟩

lemma moveRow_of_moves (h : Moves bodyStart t.height index dest) :
    t.moveRow index dest = ⟨move t.rows index.toNat dest.toNat⟩ := by
  rw [moveRow, moveRow?, if_pos (moves_iff.2 h), Option.getD_some]

lemma moveRow_of_not_moves (h : ¬Moves bodyStart t.height index dest) :
    t.moveRow index dest = t := by
  rw [moveRow, moveRow?, if_neg (mt moves_iff.1 h), Option.getD_none]

lemma perm_moveRow (t : Table) (index dest : Int) : (t.moveRow index dest).rows.Perm t.rows := by
  by_cases h : Moves bodyStart t.height index dest
  · rw [moveRow_of_moves h]
    exact perm_move h.symm.toNat_lt _
  · rw [moveRow_of_not_moves h]

@[simp] lemma height_moveRow (t : Table) (index dest : Int) :
    (t.moveRow index dest).height = t.height :=
  (t.perm_moveRow index dest).length_eq

@[simp] lemma width_moveRow (t : Table) (index dest : Int) :
    (t.moveRow index dest).width = t.width :=
  width_eq_of_perm (t.perm_moveRow index dest)

/-- The rows before the body do not move. -/
lemma getElem?_moveRow_of_lt (t : Table) (index dest : Int) {k : Nat} (hk : k < bodyStart) :
    (t.moveRow index dest).rows[k]? = t.rows[k]? := by
  by_cases h : Moves bodyStart t.height index dest
  · rw [moveRow_of_moves h]
    exact getElem?_move_of_lt (Nat.lt_of_lt_of_le hk h.first_le_toNat)
      (Nat.lt_of_lt_of_le hk h.symm.first_le_toNat) t.rows
  · rw [moveRow_of_not_moves h]

lemma deleteRow_of_lt (hkept : ¬(index < 0 ∨ index = 1 ∨ t.height ≤ index)) :
    t.deleteRow index =
      if index = 0 then
        ⟨t.rows.modifyHead fun header => header.withCells (header.cells.map fun _ => .empty)⟩
      else ⟨t.rows.eraseIdx index.toNat⟩ := by
  have hin : ¬((!inBounds index t.height || index = 1) = true) := by
    rw [Bool.or_eq_true, Bool.not_eq_true', Bool.eq_false_iff, ne_eq, inBounds_iff,
      decide_eq_true_iff]
    omega
  rw [deleteRow, deleteRow?, if_neg hin]
  split <;> rfl

lemma rowStep_insertRow (hheight : 2 ≤ t.height) (index : Int) (r : Row) :
    t.RowStep (.insertRow index r) (t.insertRow index r) := by
  obtain ⟨header, second, body, rfl⟩ := exists_rows_eq hheight
  obtain ⟨place, hplace, hbody⟩ : ∃ place : Nat,
      (place + bodyStart : Int) = min (max index bodyStart) (body.length + 2 : Nat) ∧
        place ≤ body.length := by
    refine ⟨(min (max index bodyStart) (body.length + 2 : Nat)).toNat - 2, ?_, ?_⟩ <;>
      simp only [bodyStart] <;> omega
  have hindex : min (max index bodyStart).toNat (body.length + 2) = place + 2 := by
    simp only [bodyStart] at hplace ⊢
    omega
  have hinserted : (Table.mk (header :: second :: body)).insertRow index r =
      ⟨header :: second :: body.insertIdx place r⟩ := by
    simp only [insertRow, height, List.length_cons, hindex, List.insertIdx_succ_cons]
  rw [hinserted]
  exact .inserted hplace rfl (putIn_insertIdx hbody r)

lemma rowStep_deleteRow (hheight : 2 ≤ t.height) (index : Int) :
    t.RowStep (.deleteRow index) (t.deleteRow index) := by
  by_cases hkept : index < 0 ∨ index = 1 ∨ t.height ≤ index
  · have hnone : t.deleteRow? index = none := by
      rw [deleteRow?_eq_none_iff, Bool.eq_false_iff, ne_eq, inBounds_iff]
      omega
    rw [deleteRow, hnone]
    exact .notDeleted hkept
  · obtain ⟨header, second, body, rfl⟩ := exists_rows_eq hheight
    rw [deleteRow_of_lt hkept]
    split
    · next hzero =>
      have hheader : header.withCells (header.cells.map fun _ => .empty) = header.blanked := by
        rw [List.map_const']
        rfl
      subst hzero
      dsimp only [List.modifyHead]
      rw [hheader]
      exact .blanked rfl
    · next hzero =>
      obtain ⟨place, rfl⟩ : ∃ place : Nat, index = place + bodyStart := by
        refine ⟨(index - 2).toNat, ?_⟩
        rw [bodyStart]
        omega
      have hplace : place < body.length := by
        simp only [height, List.length_cons, bodyStart] at hkept
        omega
      exact .deleted rfl (putIn_eraseIdx hplace)

lemma rowStep_moveRow (t : Table) (index dest : Int) :
    t.RowStep (.moveRow index dest) (t.moveRow index dest) := by
  by_cases h : Moves bodyStart t.height index dest
  · rw [moveRow_of_moves h]
    obtain ⟨hne, hindex, hindex', hdest, hdest'⟩ := h
    obtain ⟨place, rfl⟩ : ∃ place : Nat, index = place + bodyStart :=
      ⟨(index - bodyStart).toNat, by omega⟩
    obtain ⟨destPlace, rfl⟩ : ∃ place : Nat, dest = place + bodyStart :=
      ⟨(dest - bodyStart).toNat, by omega⟩
    obtain ⟨header, second, body, rfl⟩ : ∃ header second body, t = ⟨header :: second :: body⟩ :=
      exists_rows_eq (by rw [bodyStart] at hindex'; omega)
    simp only [height, List.length_cons, bodyStart] at hindex' hdest'
    have hplace : place < body.length := by omega
    have hdestPlace : destPlace < body.length := by omega
    obtain ⟨r, rest, hbody, hbody'⟩ := putIn_move hplace hdestPlace
    have hmoved : move (header :: second :: body) (place + bodyStart : Int).toNat
        (destPlace + bodyStart : Int).toNat = header :: second :: move body place destPlace := by
      rw [← move_cons_succ, ← move_cons_succ]
      rfl
    rw [hmoved]
    exact .moved (by omega) rfl hbody hbody'
  · rw [moveRow_of_not_moves h]
    exact .notMoved h

end Table

/-! ## Edits of rows -/

namespace Edit

/-- The edits that insert, delete and move rows. -/
def OfRows : Edit → Prop
  | .insertRow _ _ | .deleteRow _ | .moveRow _ _ => True
  | _ => False

/-- Whether an edit of rows empties the header. -/
def blanksHeader : Edit → Bool
  | .deleteRow index => index = 0
  | _ => false

/-- The row that an edit of rows brings in. -/
def insertedRow? : Edit → Option Row
  | .insertRow _ row => some row
  | _ => none

/-- The row of the body that an edit of rows deletes. -/
def deletedRow? (t : Table) : Edit → Option Row
  | .deleteRow index => if index < Table.bodyStart then none else t.row? index
  | _ => none

/-- The rows of the body that edits delete, each from the table that it is found in. -/
def deletedRows (current : Style) : Table → List Edit → List Row
  | _, [] => []
  | t, e :: rest => (e.deletedRow? t).toList ++ deletedRows current (applyAll current t [e]) rest

end Edit

namespace Table

open Sequence

variable {current : Style} {t t' : Table} {e : Edit}

/-- An edit of rows always succeeds, with one of the steps. -/
lemma rowStep_applyAll (hheight : 2 ≤ t.height) (he : e.OfRows) :
    t.RowStep e (Edit.applyAll current t [e]) := by
  cases e with
  | insertRow index row => exact rowStep_insertRow hheight index row
  | deleteRow index => exact rowStep_deleteRow hheight index
  | moveRow index dest => exact rowStep_moveRow t index dest
  | _ => exact absurd he id

/-! ### What a step keeps -/

lemma getElem?_of_fixedRows (h : t'.fixedRows = t.fixedRows) {k : Nat} (hk : k < bodyStart) :
    t'.rows[k]? = t.rows[k]? := by
  have hget := congrArg (·[k]?) h
  simpa only [fixedRows, List.getElem?_take, if_pos hk] using hget

namespace RowStep

lemma second_eq (h : t.RowStep e t') : t'.rows[1]? = t.rows[1]? := by
  cases h with
  | inserted _ hfixed | deleted hfixed | moved _ hfixed =>
    exact getElem?_of_fixedRows hfixed (by decide)
  | blanked hrows =>
    rw [hrows]
    rfl
  | notDeleted | notMoved => rfl

lemma two_le_height (h : t.RowStep e t') (hheight : 2 ≤ t.height) : 2 ≤ t'.height := by
  have hsecond : t'.rows[1]? = some t.rows[1] := by
    rw [h.second_eq]
    exact List.getElem?_eq_getElem hheight
  exact (List.getElem?_eq_some_iff.1 hsecond).1

lemma header_eq (h : t.RowStep e t') (hheight : 2 ≤ t.height) :
    t'.rows[0]? =
      t.rows[0]?.map fun header => if e.blanksHeader then header.blanked else header := by
  have hkept (hblanks : e.blanksHeader = false) (hheader : t'.rows[0]? = t.rows[0]?) :
      t'.rows[0]? =
        t.rows[0]?.map fun header => if e.blanksHeader then header.blanked else header := by
    simp [hblanks, hheader]
  cases h with
  | inserted _ hfixed | moved _ hfixed =>
    exact hkept rfl (getElem?_of_fixedRows hfixed (by decide))
  | blanked hrows =>
    rw [hrows]
    rfl
  | @deleted place _ _ hfixed =>
    have hne : ¬(place + bodyStart : Int) = 0 := by
      rw [bodyStart]
      omega
    exact hkept (decide_eq_false hne) (getElem?_of_fixedRows hfixed (by decide))
  | notDeleted hindex => exact hkept (decide_eq_false (by omega)) rfl
  | notMoved => exact hkept rfl rfl

/-- The rows of the body after a step, with the one that it deletes, are those before it, with the
one that it inserts. -/
lemma body_eq (h : t.RowStep e t') :
    (↑t'.body + ↑(e.deletedRow? t).toList : Multiset Row) =
      ↑t.body + ↑e.insertedRow?.toList := by
  rw [Multiset.coe_add, Multiset.coe_add, Multiset.coe_eq_coe]
  cases h with
  | @inserted _ r _ _ _ _ hbody =>
    show (t'.body ++ []).Perm (t.body ++ [r])
    rw [List.append_nil]
    exact hbody.perm.trans (List.perm_append_singleton _ _).symm
  | blanked hrows =>
    rw [body, body, hrows]
    rfl
  | @deleted place r _ _ hbody =>
    have hfound : (Edit.deleteRow (place + bodyStart)).deletedRow? t = some r := by
      have hplace := hbody.getElem?_eq
      rw [body, List.getElem?_drop, Nat.add_comm] at hplace
      rw [Edit.deletedRow?, if_neg (by omega), row?, ← Int.natCast_add, get?_natCast, hplace]
    rw [hfound]
    show (t'.body ++ [r]).Perm (t.body ++ [])
    rw [List.append_nil]
    exact (List.perm_append_singleton _ _).trans hbody.perm.symm
  | moved _ _ hbody hdest =>
    exact (hdest.perm.trans hbody.perm.symm).append_right []
  | @notDeleted index hindex =>
    have hnone : (Edit.deleteRow index).deletedRow? t = none := by
      rw [Edit.deletedRow?]
      split
      · rfl
      · next hbody =>
        rw [row?, ← Option.not_isSome_iff_eq_none, isSome_get?, inBounds_iff]
        rw [bodyStart] at hbody
        rw [height] at hindex
        omega
    rw [hnone]
    rfl
  | notMoved => exact .refl _

end RowStep

/-! ### Runs -/

/-- What edits of rows have left of a table `t`: the second row, the header, emptied if one of them
deletes it, and as a multiset the body with what was inserted and without what was deleted. -/
structure RowsKept (current : Style) (t : Table) (es : List Edit) (u : Table) : Prop where
  second_eq : u.rows[1]? = t.rows[1]?
  header_eq : u.rows[0]? =
    t.rows[0]?.map fun header => if es.any (·.blanksHeader) then header.blanked else header
  body_eq : (↑u.body + ↑(Edit.deletedRows current t es) : Multiset Row) =
    ↑t.body + ↑(es.filterMap (·.insertedRow?))

lemma RowsKept.two_le_height {es : List Edit} {u : Table} (h : t.RowsKept current es u)
    (hheight : 2 ≤ t.height) : 2 ≤ u.height := by
  have hsecond : u.rows[1]? = some t.rows[1] := h.second_eq.trans (List.getElem?_eq_getElem hheight)
  exact (List.getElem?_eq_some_iff.1 hsecond).1

/-- A step goes before what the edits behind it keep. -/
lemma RowStep.rowsKept {rest : List Edit} {u : Table} (hheight : 2 ≤ t.height)
    (h : t.RowStep e (Edit.applyAll current t [e]))
    (hrest : (Edit.applyAll current t [e]).RowsKept current rest u) :
    t.RowsKept current (e :: rest) u where
  second_eq := hrest.second_eq.trans h.second_eq
  header_eq := by
    rw [hrest.header_eq, h.header_eq hheight, Option.map_map]
    refine congrArg (t.rows[0]?.map ·) (funext fun header => ?_)
    cases hblanks : e.blanksHeader <;> simp [hblanks]
  body_eq := by
    have hinserted : (e :: rest).filterMap (·.insertedRow?) =
        e.insertedRow?.toList ++ rest.filterMap (·.insertedRow?) := by
      cases hrow : e.insertedRow? <;> simp [hrow]
    rw [hinserted, Edit.deletedRows, ← Multiset.coe_add, ← Multiset.coe_add]
    calc (↑u.body + (↑(e.deletedRow? t).toList +
            ↑(Edit.deletedRows current (Edit.applyAll current t [e]) rest)) : Multiset Row)
        = ↑(e.deletedRow? t).toList +
            (↑u.body + ↑(Edit.deletedRows current (Edit.applyAll current t [e]) rest)) :=
          add_left_comm _ _ _
      _ = ↑(e.deletedRow? t).toList +
            (↑(Edit.applyAll current t [e]).body + ↑(rest.filterMap (·.insertedRow?))) := by
          rw [hrest.body_eq]
      _ = ↑(Edit.applyAll current t [e]).body + ↑(e.deletedRow? t).toList +
            ↑(rest.filterMap (·.insertedRow?)) := by
          rw [← add_assoc, add_comm (↑(e.deletedRow? t).toList : Multiset Row)]
      _ = ↑t.body + (↑e.insertedRow?.toList + ↑(rest.filterMap (·.insertedRow?))) := by
          rw [h.body_eq, add_assoc]

/-- Edits of rows, one after the other, keep what each of them keeps. -/
lemma rowsKept_applyAll (hheight : 2 ≤ t.height) {es : List Edit} (hes : ∀ e ∈ es, e.OfRows) :
    t.RowsKept current es (Edit.applyAll current t es) := by
  induction es generalizing t with
  | nil => exact ⟨rfl, Option.map_id'.symm, rfl⟩
  | cons e rest ih =>
    have hstep : t.RowStep e (Edit.applyAll current t [e]) :=
      rowStep_applyAll hheight (hes e List.mem_cons_self)
    have hrest := ih (hstep.two_le_height hheight) fun e' he' => hes e' (List.mem_cons_of_mem e he')
    rw [Edit.applyAll_cons]
    exact hstep.rowsKept hheight hrest

end Table

/-- After each of some edits of rows, the second row is the one that it was at first, the header is
what it was at first or has been emptied, and no row of the body is lost; and the next edit does to
the table that it finds what a step does. -/
theorem applyAll_rowEdits (current : Style) {t : Table} (hheight : 2 ≤ t.height) {es : List Edit}
    (hes : ∀ e ∈ es, e.OfRows) :
    ∀ done rest, es = done ++ rest →
      t.RowsKept current done (Edit.applyAll current t done) ∧
        ∀ e ∈ rest.head?, (Edit.applyAll current t done).RowStep e
          (Edit.applyAll current t (done ++ [e])) := by
  rintro done rest rfl
  have hkept : t.RowsKept current done (Edit.applyAll current t done) :=
    Table.rowsKept_applyAll hheight fun e he => hes e (List.mem_append_left rest he)
  refine ⟨hkept, fun e he => ?_⟩
  have hrow : e.OfRows := hes e (List.mem_append_right done (List.mem_of_mem_head? he))
  rw [Edit.applyAll_append]
  exact Table.rowStep_applyAll (hkept.two_le_height hheight) hrow

/-- A row goes to the end of the body, the first row of the body behind it, the header is emptied,
the delimiter row withstands, and a row is deleted that was there at first. -/
theorem applyAll_rowEdits_moved :
    ∃ t es, t = Table.mk [⟨"> ".toList, [⟨['a']⟩, ⟨['b']⟩], []⟩, ⟨[], [.bar 3], []⟩,
        ⟨[], [⟨['c']⟩], []⟩, ⟨[], [⟨['d']⟩], []⟩] ∧
      es = [.insertRow 9 ⟨[], [⟨['e']⟩], []⟩, .moveRow 2 4, .deleteRow 0, .deleteRow 1,
        .deleteRow 2] ∧
      t.RowsKept .standard es ⟨[⟨"> ".toList, [.empty, .empty], []⟩, ⟨[], [.bar 3], []⟩,
        ⟨[], [⟨['e']⟩], []⟩, ⟨[], [⟨['c']⟩], []⟩]⟩ ∧
      Edit.deletedRows .standard t es = [⟨[], [⟨['d']⟩], []⟩] := by
  have hes : ∀ e ∈ [Edit.insertRow 9 ⟨[], [⟨['e']⟩], []⟩, .moveRow 2 4, .deleteRow 0, .deleteRow 1,
      .deleteRow 2], e.OfRows := by
    simp [Edit.OfRows]
  refine ⟨_, _, rfl, rfl, ?_, rfl⟩
  exact (applyAll_rowEdits .standard (t := ⟨[⟨"> ".toList, [⟨['a']⟩, ⟨['b']⟩], []⟩,
    ⟨[], [.bar 3], []⟩, ⟨[], [⟨['c']⟩], []⟩, ⟨[], [⟨['d']⟩], []⟩]⟩) (by decide) hes _ []
    (List.append_nil _).symm).1

end PipeTable
