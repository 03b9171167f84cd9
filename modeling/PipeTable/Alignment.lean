import PipeTable.Text.Basic

/-!
# Alignment

A column of a table is aligned to one of three sides, or it is left unset and takes the side that
the style of the table provides. A header cell has a policy of its own: it follows its column or
goes to a side regardless of it.
-/

namespace PipeTable

/-- Where the content of a cell goes when the cell is wider. -/
inductive Side
  | left
  | right
  | center
  deriving DecidableEq, Repr, Inhabited

/-- The alignment that a delimiter cell declares for its column. -/
inductive Alignment
  /-- The delimiter cell has no colon: the style decides. -/
  | unset
  | to (side : Side)
  deriving DecidableEq, Repr, Inhabited

/-- The alignment of header cells. -/
inductive HeaderAlignment
  /-- Header cells are aligned like the rest of their column. -/
  | follow
  | to (side : Side)
  deriving DecidableEq, Repr, Inhabited

/-- How the cells of a table are laid out. -/
inductive Layout
  /-- Every cell is padded to the width of its column. -/
  | normal
  /-- Cells get one space of padding and no alignment. -/
  | weak
  deriving DecidableEq, Repr, Inhabited

/-- One of the two ends of a span of text that a cursor can sit at. -/
inductive Edge
  /-- Right after the pipe in front. -/
  | leading
  /-- Right before the pipe behind. -/
  | trailing
  deriving DecidableEq, Repr, Inhabited

/-- The side of a column: its own, or the given one where it is unset. -/
def Alignment.orElse (own fallback : Alignment) : Alignment :=
  match own with
  | .unset => fallback
  | .to side => .to side

end PipeTable
