import PipeTable.Completion
import PipeTable.Edit.Alignment
import PipeTable.Edit.Columns
import PipeTable.Edit.Rows
import PipeTable.Formatting
import PipeTable.Note

/-!
# Edits

The operations that turn a table into another one, as data. An edit that depends on a style has
one of its own or works with the current style. Applying an edit fails, changes nothing, or gives
a new table; a new table counts as a change even when it is equal to the old one.
-/

namespace PipeTable

/-- An operation on a table. -/
inductive Edit
  | complete (style? : Option Style)
  | format (style? : Option Style)
  | alterAlignment (column : Int) (value : Value) (style? : Option Style)
  | insertRow (index : Int) (row : Row)
  | deleteRow (index : Int)
  | moveRow (index dest : Int)
  | insertColumn (index : Int) (cells : List Cell) (style? : Option Style)
  | deleteColumn (index : Int) (style? : Option Style)
  | moveColumn (index dest : Int)

namespace Edit

/-- What completing and formatting tell besides the table. -/
inductive Report
  | none
  | completed (delimiterInserted : Bool)
  | formatted (marginLeft : Text)
  deriving DecidableEq, Repr, Inhabited

/-- The result of an edit. -/
structure Outcome where
  table : Table
  /-- The table is the old one, because the edit did not apply. -/
  isSame : Bool
  report : Report
  deriving DecidableEq, Repr, Inhabited

namespace Outcome

/-- The outcome of an edit that tells of its failure to apply by giving no table. -/
def ofOption (old : Table) (new? : Option Table) : Outcome := ⟨new?.getD old, new?.isNone, .none⟩

/-- The outcome of an edit that always applies. -/
def ofTable (new : Table) : Outcome := ⟨new, false, .none⟩

/-- The outcome of completing a table. -/
def ofCompleted (c : Completed) : Outcome := ⟨c.table, false, .completed c.delimiterInserted⟩

/-- The outcome of formatting a table. Only a table without rows is given back as it is. -/
def ofFormatted (f : Formatted) : Outcome :=
  ⟨f.table, f.table.rows.isEmpty, .formatted f.marginLeft⟩

end Outcome

/-- Applies an edit to a table, where a style is the current one. -/
def outcome (current : Style) (t : Table) : Edit → Except Fault Outcome
  | .complete style? => (t.complete (style?.getD current)).map .ofCompleted
  | .format style? => (t.format (style?.getD current)).map .ofFormatted
  | .alterAlignment column value style? =>
    (t.alterAlignment? (style?.getD current) column value).map (.ofOption t)
  | .insertRow index row => .ok (.ofTable (t.insertRow index row))
  | .deleteRow index => .ok (.ofOption t (t.deleteRow? index))
  | .moveRow index dest => .ok (.ofOption t (t.moveRow? index dest))
  | .insertColumn index cells style? =>
    .ok (.ofOption t (t.insertColumn? (style?.getD current) index cells))
  | .deleteColumn index style? =>
    .ok (.ofOption t (t.deleteColumn? (style?.getD current) index))
  | .moveColumn index dest => .ok (.ofOption t (t.moveColumn? index dest))

/-- The table after an edit. -/
def apply (current : Style) (t : Table) (e : Edit) : Except Fault Table :=
  (e.outcome current t).map (·.table)

/-- The table after some edits in a row, where one that fails leaves the table as it is. -/
def applyAll (current : Style) : Table → List Edit → Table
  | t, [] => t
  | t, e :: rest =>
    match e.apply current t with
    | .ok new => applyAll current new rest
    | .error _ => applyAll current t rest

end Edit

/-! ## Notes -/

/-- What completing a table has to tell. -/
def Table.completionNotes (t : Table) : List Note :=
  if t.rows ≠ [] && t.delimiterRow?.isNone then [.delimiterInserted t.width] else []

/-- What an edit has to tell. -/
def Edit.notes (t : Table) : Edit → List Note
  | .complete _ => t.completionNotes
  | .alterAlignment column _ _ =>
    if (t.alignable? column).isNone then [.alignmentKept column] else []
  | .deleteRow index => if (t.deleteRow? index).isNone then [.rowKept index] else []
  | _ => []

end PipeTable
