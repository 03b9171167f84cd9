import PipeTable.Cursor.Mapping
import PipeTable.Edit.Basic
import PipeTable.Reading

/-!
# Reformatting lines

The one operation that an editor needs: read the lines of a table, complete it, format it, write
it back, and keep the cursor where it was. The cursor is turned into a focus before and back into
a point after, so that it stays at the same end of the same cell; below a delimiter row that was
added it moves down a line.

Lines whose header has no cells are no table yet. They are given back as they are.
-/

namespace PipeTable

/-- Reformatted lines. -/
structure Reformatted where
  lines : List Text
  /-- The cursor after, none if there was none or it was outside the table. -/
  cursor? : Option Point
  /-- The left margin of every row. -/
  marginLeft : Text
  /-- Whether the result has a delimiter row that the lines did not have. -/
  delimiterInserted : Bool
  deriving DecidableEq, Repr, Inhabited

/-! ## Tables -/

/-- A completed and formatted table. -/
structure Tidied where
  table : Table
  marginLeft : Text
  delimiterInserted : Bool
  deriving DecidableEq, Repr, Inhabited

/-- Completes and formats a table. -/
def Table.tidy (style : Style) (t : Table) : Except Fault Tidied := do
  let completed ← t.complete style
  let formatted ← completed.table.format style
  return ⟨formatted.table, formatted.marginLeft, completed.delimiterInserted⟩

/-- The focus on the same cell once a delimiter row is added: everything below the header moves
down by one. -/
def Focus.afterInsertion (delimiterInserted : Bool) (f : Focus) : Focus :=
  if delimiterInserted && 1 ≤ f.row then f.withRow (f.row + 1) else f

/-! ## Lines -/

/-- Reformats the lines of a table that starts on line `firstLine` of an editor. -/
def reformat (style : Style) (rule : MarginRule) (firstLine : Int) (lines : List Text)
    (cursor? : Option Point) : Except Fault Reformatted :=
  let t := readTable rule lines
  let focus? := cursor?.bind (t.focusOf? · firstLine)
  match t.rows with
  | [] => .ok ⟨[], none, [], false⟩
  | header :: _ =>
    if header.cells = [] then
      .ok ⟨lines, if focus?.isSome then cursor? else none, header.marginLeft, false⟩
    else do
      let tidied ← t.tidy style
      let cursor? := focus?.bind fun f =>
        tidied.table.pointOf? (f.afterInsertion tidied.delimiterInserted) firstLine
      return ⟨tidied.table.lines, cursor?, tidied.marginLeft, tidied.delimiterInserted⟩

/-- What reformatting lines has to tell, also when it fails. -/
def reformatNotes (style : Style) (rule : MarginRule) (lines : List Text) : List Note :=
  let t := readTable rule lines
  match t.rows with
  | [] => []
  | header :: _ =>
    if header.cells = [] then [.headerEmpty t.height]
    else
      t.completionNotes ++
        match t.tidy style with
        | .ok tidied => [.reformatted tidied.table.height tidied.delimiterInserted]
        | .error _ => []

/-- No lines are reformatted to no lines. -/
@[simp] theorem reformat_nil (style : Style) (rule : MarginRule) (firstLine : Int)
    (cursor? : Option Point) :
    reformat style rule firstLine [] cursor? = .ok ⟨[], none, [], false⟩ := rfl

end PipeTable
