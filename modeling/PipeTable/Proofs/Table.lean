import Mathlib.Data.List.Basic
import PipeTable.Table

/-!
# Tables and their parts

A table with rows has a header, and its parts are found again in the table that they make, provided
that the delimiter row is one (`parts?_toTable`).  The rest says where the rows and the width of a
table come from.
-/

namespace PipeTable

/-- A row of at least one delimiter cell and no others. -/
lemma Row.isDelimiter_iff {r : Row} :
    r.isDelimiter ↔ r.cells ≠ [] ∧ ∀ c ∈ r.cells, c.isDelimiter := by
  simp [Row.isDelimiter]

namespace Table

variable {t : Table} {p : Parts}

/-! ## Finding the parts -/

/-- Parts with a delimiter row are found again in their table. -/
lemma parts?_toTable {d : Row} (hd : p.delimiter? = some d) (h : d.isDelimiter) :
    p.toTable.parts? = some p := by
  obtain ⟨header, delimiter?, body⟩ := p
  obtain rfl : delimiter? = some d := hd
  simp [Parts.toTable, parts?, h]

/-- Parts without a delimiter row are found again if their body does not begin with one. -/
lemma parts?_toTable_of_none (hd : p.delimiter? = none)
    (h : ∀ r, p.body.head? = some r → ¬ r.isDelimiter) : p.toTable.parts? = some p := by
  obtain ⟨header, delimiter?, body⟩ := p
  obtain rfl : delimiter? = none := hd
  cases body with
  | nil => rfl
  | cons r rest => simp [Parts.toTable, parts?, h r rfl]

lemma exists_parts?_eq (h : t.rows ≠ []) : ∃ p, t.parts? = some p := by
  obtain ⟨rows⟩ := t
  match rows with
  | [] => exact absurd rfl h
  | [header] => exact ⟨_, rfl⟩
  | header :: second :: rest =>
    unfold parts?
    dsimp only
    split <;> exact ⟨_, rfl⟩

lemma header_of_parts? (h : t.parts? = some p) : t.rows.head? = some p.header := by
  rw [← toTable_of_parts? h]
  rfl

lemma exists_parts?_of_header {header : Row} (h : t.rows.head? = some header) :
    ∃ p, t.parts? = some p ∧ p.header = header := by
  have hne : t.rows ≠ [] := by
    intro hnil
    rw [hnil] at h
    cases h
  obtain ⟨p, hp⟩ := exists_parts?_eq hne
  exact ⟨p, hp, Option.some.inj ((header_of_parts? hp).symm.trans h)⟩

/-- The delimiter row that is found is one. -/
lemma isDelimiter_of_parts? (h : t.parts? = some p) {d : Row} (hd : p.delimiter? = some d) :
    d.isDelimiter := by
  rw [delimiter?_of_parts? h, delimiterRow?] at hd
  exact (Option.filter_eq_some_iff.1 hd).2

/-- If no delimiter row is found, the body does not begin with one. -/
lemma not_isDelimiter_of_parts? (h : t.parts? = some p) (hd : p.delimiter? = none) {r : Row}
    (hr : p.body.head? = some r) : ¬ r.isDelimiter := by
  intro hdelimiter
  have hsecond : t.rows[1]? = some r := by
    rw [← toTable_of_parts? h, ← hr, List.head?_eq_getElem?]
    simp [Parts.toTable, hd]
  rw [delimiter?_of_parts? h, delimiterRow?, hsecond, Option.filter_some, if_pos hdelimiter] at hd
  cases hd

/-! ## Rows -/

lemma ext_getElem? {t' : Table} (h : ∀ i : Nat, t'.rows[i]? = t.rows[i]?) : t' = t :=
  congrArg Table.mk (List.ext_getElem? h)

namespace Parts

lemma mem_toTable {r : Row} :
    r ∈ p.toTable.rows ↔ r = p.header ∨ p.delimiter? = some r ∨ r ∈ p.body := by
  simp only [toTable, List.mem_cons, List.cons_append, List.mem_append, Option.mem_toList]

lemma mem_toTable_of_mem_contentRows {r : Row} (h : r ∈ p.contentRows) : r ∈ p.toTable.rows := by
  rw [mem_toTable]
  rcases List.mem_cons.1 h with rfl | h
  · exact .inl rfl
  · exact .inr (.inr h)

lemma height_toTable (p : Parts) :
    p.toTable.height = 1 + p.delimiter?.toList.length + p.body.length := by
  simp only [height, toTable, List.length_append, List.length_cons]
  omega

end Parts

lemma row?_eq_some_iff {row : Int} {r : Row} :
    t.row? row = some r ↔ 0 ≤ row ∧ t.rows[row.toNat]? = some r :=
  Sequence.get?_eq_some_iff

lemma mem_of_row? {row : Int} {r : Row} (h : t.row? row = some r) : r ∈ t.rows :=
  List.mem_of_getElem? (row?_eq_some_iff.1 h).2

/-! ## Width -/

lemma Parts.width_le_of_mem {r : Row} (h : r = p.header ∨ p.delimiter? = some r ∨ r ∈ p.body) :
    r.width ≤ p.toTable.width :=
  width_le (mem_toTable.2 h)

lemma rows_ne_nil_of_width_pos (h : 0 < t.width) : t.rows ≠ [] := by
  intro hnil
  rw [width, hnil] at h
  exact Nat.lt_irrefl _ h

/-- The width of a table is that of one of its rows. -/
lemma exists_width_eq (h : t.rows ≠ []) : ∃ r ∈ t.rows, r.width = t.width := by
  obtain ⟨rows⟩ := t
  induction rows with
  | nil => exact absurd rfl h
  | cons r rows ih =>
    have hwidth : (Table.mk (r :: rows)).width = max r.width (Table.mk rows).width := rfl
    by_cases hle : (Table.mk rows).width ≤ r.width
    · exact ⟨r, List.mem_cons_self, by rw [hwidth, Nat.max_eq_left hle]⟩
    · have hne : rows ≠ [] := by
        rintro rfl
        exact hle (Nat.zero_le _)
      obtain ⟨s, hs, hsw⟩ := ih hne
      refine ⟨s, List.mem_cons_of_mem r hs, ?_⟩
      rw [hsw, hwidth, Nat.max_eq_right (by omega)]

/-- A table all rows of which are equally wide is as wide as they are. -/
lemma width_eq_of_forall {width : Nat} (hne : t.rows ≠ []) (h : ∀ r ∈ t.rows, r.width = width) :
    t.width = width := by
  obtain ⟨r, hr, hwidth⟩ := exists_width_eq hne
  rw [← hwidth, h r hr]

/-- The order of the rows does not matter. -/
lemma width_eq_of_perm {t' : Table} (h : t'.rows.Perm t.rows) : t'.width = t.width :=
  h.foldr_eq' (fun _ _ _ _ w => by omega) 0

/-- All rows have the given number of cells. -/
def IsRectangular (width : Nat) (t : Table) : Prop := ∀ r ∈ t.rows, r.width = width

end Table

end PipeTable
