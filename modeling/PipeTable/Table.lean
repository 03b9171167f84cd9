import PipeTable.Row

/-!
# Tables

A table is a sequence of rows. The first row is the header. The second is the delimiter row if all
its cells are delimiter cells; that is a matter of its place and its text, and nothing marks the
row otherwise. All other rows are the body. Rows may differ in their number of cells.
-/

namespace PipeTable

/-- A sequence of rows. -/
structure Table where
  rows : List Row
  deriving DecidableEq, Repr, Inhabited

namespace Table

/-- The table without rows. -/
def empty : Table := ⟨[]⟩

/-- The number of rows. -/
def height (t : Table) : Nat := t.rows.length

/-- The number of cells of the widest row. -/
def width (t : Table) : Nat := t.rows.foldr (fun r w => max r.width w) 0

/-- The number of cells of the header, none if there is no header. -/
def headerWidth? (t : Table) : Option Nat := t.rows.head?.map (·.width)

/-- The row of an index, if there is one. -/
def row? (t : Table) (index : Int) : Option Row := Sequence.get? t.rows index

/-- The cell of a row and a column, if there is one. -/
def cell? (t : Table) (row column : Int) : Option Cell := (t.row? row).bind (·.cell? column)

/-- The delimiter row, if the table has one. -/
def delimiterRow? (t : Table) : Option Row := t.rows[1]?.filter (·.isDelimiter)

/-- The rows as texts. -/
def lines (t : Table) : List Text := t.rows.map (·.text)

/-- No row has more cells than the table is wide. -/
theorem width_le {t : Table} {r : Row} (h : r ∈ t.rows) : r.width ≤ t.width := by
  unfold width
  generalize t.rows = rows at h
  induction rows with
  | nil => simp at h
  | cons s rows ih =>
    rcases List.mem_cons.1 h with rfl | h
    · exact Nat.le_max_left _ _
    · exact Nat.le_trans (ih h) (Nat.le_max_right _ _)

/-! ## Parts -/

/-- The rows of a table by what they are. -/
structure Parts where
  header : Row
  delimiter? : Option Row
  body : List Row
  deriving DecidableEq, Repr, Inhabited

/-- The parts of a table, none if it has no rows. -/
def parts? (t : Table) : Option Parts :=
  match t.rows with
  | [] => none
  | [header] => some ⟨header, none, []⟩
  | header :: second :: rest =>
    if second.isDelimiter then some ⟨header, some second, rest⟩
    else some ⟨header, none, second :: rest⟩

/-- The table of some parts. -/
def Parts.toTable (p : Parts) : Table := ⟨p.header :: p.delimiter?.toList ++ p.body⟩

/-- The rows that hold content, from the top: all but the delimiter row. -/
def Parts.contentRows (p : Parts) : List Row := p.header :: p.body

/-- A table consists of its parts. -/
theorem toTable_of_parts? {t : Table} {p : Parts} (h : t.parts? = some p) : p.toTable = t := by
  obtain ⟨rows⟩ := t
  match rows with
  | [] => simp [parts?] at h
  | [header] =>
    simp only [parts?, Option.some.injEq] at h
    subst h
    rfl
  | header :: second :: rest =>
    unfold parts? at h
    dsimp only at h
    split at h <;> (cases h; rfl)

/-- The delimiter row of a table is that of its parts. -/
theorem delimiter?_of_parts? {t : Table} {p : Parts} (h : t.parts? = some p) :
    p.delimiter? = t.delimiterRow? := by
  obtain ⟨rows⟩ := t
  match rows with
  | [] => simp [parts?] at h
  | [header] =>
    simp only [parts?, Option.some.injEq] at h
    subst h
    rfl
  | header :: second :: rest =>
    unfold parts? at h
    dsimp only at h
    split at h <;> next hs => (cases h; simp [delimiterRow?, Option.filter, hs])

end Table

end PipeTable
