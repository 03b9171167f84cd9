import PipeTable.Segment
import PipeTable.Setting.MarginRule
import PipeTable.Table

/-!
# Reading lines

Every line is a row, whatever it looks like. Its first segment is the left margin if the margin
rule allows all of it, and of the segments after that the last one is the right margin if it is
blank and not the only one. All segments between are cells.
-/

namespace PipeTable

/-- Splits off the left margin: the first segment, if it may be one. -/
def takeMarginLeft (rule : MarginRule) : List Text → Text × List Text
  | [] => ([], [])
  | first :: rest => if rule.matchesAll first then (first, rest) else ([], first :: rest)

/-- Splits off the right margin: the last of at least two segments, if it is blank. -/
def takeMarginRight (pieces : List Text) : List Text × Text :=
  match pieces.getLast? with
  | none => (pieces, [])
  | some last =>
    if 1 < pieces.length && last.isBlank then (pieces.dropLast, last) else (pieces, [])

/-- Reads a line as a row. -/
def readRow (rule : MarginRule) (line : Text) : Row :=
  let (marginLeft, pieces) := takeMarginLeft rule (segments line)
  let (cells, marginRight) := takeMarginRight pieces
  ⟨marginLeft, cells.map Cell.mk, marginRight⟩

/-- Reads lines as a table, a row for each. -/
def readTable (rule : MarginRule) (lines : List Text) : Table := ⟨lines.map (readRow rule)⟩

/-- A table has as many rows as it was read from lines. -/
@[simp] theorem height_readTable (rule : MarginRule) (lines : List Text) :
    (readTable rule lines).height = lines.length := by
  simp [readTable, Table.height]

end PipeTable
