import PipeTable.Reformat
import PipeTable.Setting.Scopes

/-!
# Editing sessions

A session is the work of an editor on one table: the table, where the cursor was left by the last
reformatting, and the styles that operations fall back to. Steps that fail leave a session as it
is, since they have no session to go on with.
-/

namespace PipeTable

/-- The state of an editor at work on a table. -/
structure Session where
  table : Table
  cursor? : Option Point
  scopes : Scopes
  deriving Inhabited

namespace Session

/-- The session before anything is done. -/
def initial : Session := ⟨.empty, none, .initial⟩

/-- Goes on with another table. -/
def withTable (s : Session) (t : Table) : Session := { s with table := t }

/-- Goes on with other styles. -/
def withScopes (s : Session) (scopes : Scopes) : Session := { s with scopes := scopes }

/-- Applies an edit to the table. -/
def edit (s : Session) (e : Edit) : Except Fault (Edit.Outcome × Session) := do
  let outcome ← e.outcome s.scopes.current s.table
  return (outcome, s.withTable outcome.table)

/-- Reformats the lines of the table and goes on with what is read from the result, the cursor at
its new place. -/
def reformat (s : Session) (style? : Option Style) (rule : MarginRule) (firstLine : Int)
    (cursor? : Option Point) : Except Fault (Reformatted × Session) := do
  let result ← PipeTable.reformat (s.scopes.styleOr style?) rule firstLine s.table.lines cursor?
  return (result, { s with table := readTable rule result.lines, cursor? := result.cursor? })

end Session

end PipeTable
