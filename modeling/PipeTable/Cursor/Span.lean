import PipeTable.Cursor.Point
import PipeTable.Table

/-!
# Spans

The text of a row consists of spans with a pipe between any two: the left margin, the cells, and
the right margin. Each is given by its first and its last place for a cursor. A row without cells
has no pipes; its margins meet at the end of its text.

The main statement is `length_spans`: a row has a span for every column from -1 to its width.
-/

namespace PipeTable

/-- A stretch of a line, by the places before its first and after its last character. -/
structure Span where
  start : Nat
  stop : Nat
  deriving DecidableEq, Repr, Inhabited

/-- The spans of some texts that follow each other from a place on, one character apart. -/
def spansFrom (start : Nat) : List Text → List Span
  | [] => []
  | t :: rest => ⟨start, start + t.length⟩ :: spansFrom (start + t.length + 1) rest

@[simp] theorem length_spansFrom (start : Nat) (texts : List Text) :
    (spansFrom start texts).length = texts.length := by
  induction texts generalizing start with
  | nil => rfl
  | cons t rest ih => simp [spansFrom, ih]

namespace Row

/-- The spans of a row: its left margin, its cells, and its right margin. -/
def spans (r : Row) : List Span :=
  let margin := r.marginLeft.length
  if r.cells = [] then [⟨0, margin⟩, ⟨margin, margin⟩] else spansFrom 0 r.pieces

/-- A row has one span for each cell and two for its margins. -/
@[simp] theorem length_spans (r : Row) : r.spans.length = r.width + 2 := by
  unfold spans
  split
  · next h => simp [width, h]
  · simp

/-- The span of a column. Columns in front of the left margin count as the left margin, and those
behind the right margin as the right margin. -/
def span (r : Row) (column : Int) : Span := r.spans.getD (min column r.width + 1).toNat default

/-- The column of the first span that reaches a place, that of the right margin if none does. -/
def columnAt (r : Row) (place : Int) : Int :=
  min (r.spans.findIdx fun s => place ≤ s.stop) (r.width + 1) - 1

/-- The end of its span that a place counts as: the start only if nothing of the span is before
it. -/
def edgeAt (r : Row) (place : Int) : Edge :=
  if place ≤ (r.span (r.columnAt place)).start then .leading else .trailing

/-- The place of an end of a column. At the end of the right margin that is one past the last pipe,
if the margin has that much text. -/
def placeOf (r : Row) (column : Int) : Edge → Nat
  | .leading => (r.span column).start
  | .trailing =>
    if r.width ≤ column then min ((r.span column).start + 1) (r.span column).stop
    else (r.span column).stop

end Row

end PipeTable
