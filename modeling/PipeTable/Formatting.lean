import PipeTable.Filling
import PipeTable.Setting.Style
import PipeTable.Table

/-!
# Formatting

A table is formatted as it stands, whether or not its rows have the same number of cells. Every
row takes the left margin of the header and loses its right margin, and the delimiter row is
written anew from the alignments it declares. In the weak layout every other cell gets one space
of padding around its content; in the normal layout the content is filled to the width of its
column first.

The width of a column is the least number of dashes where the delimiter row has the column, or
more if some content is wider. Where the delimiter row declares no alignment for a column, the
default of the style decides; the style may have another side for the cells of the header.

A header without cells is the header of no table: then every row becomes the bare margin.
-/

namespace PipeTable

/-! ## Columns -/

/-- What the normal layout needs to know of a column. -/
structure Column where
  width : Nat
  alignment : Alignment
  deriving DecidableEq, Repr, Inhabited

namespace Table.Parts

/-- The width of a column: that of its widest content, and no less than the least number of dashes
if the delimiter row has the column. -/
def columnWidth (style : Style) (p : Parts) (column : Nat) : Nat :=
  let dashes := match p.delimiter? with
    | some delimiter => if column < delimiter.width then style.minDashes.toNat else 0
    | none => 0
  p.contentRows.foldr (fun r widest =>
    match r.cells[column]? with
    | some c => max (style.measure.width c.content) widest
    | none => widest) dashes

/-- The alignment that the delimiter row declares for a column. -/
def declared (p : Parts) (column : Nat) : Alignment :=
  match p.delimiter? with
  | some delimiter => (delimiter.alignments[column]?).getD .unset
  | none => .unset

/-- The columns of a table, where those that declare no alignment take the given one. -/
def columns (style : Style) (fallback : Alignment) (p : Parts) : List Column :=
  (List.range p.toTable.width).map fun column =>
    ⟨p.columnWidth style column, (p.declared column).orElse fallback⟩

end Table.Parts

/-! ## Rows -/

namespace Row

/-- The row with other cells and the margins of a formatted table. -/
def formatted (margin : Text) (cells : List Cell) : Row := ⟨margin, cells, []⟩

/-- Fills every cell of a row to the width of its column. The header may override the alignment of
the columns. -/
def fillColumns (style : Style) (columns : List Column) (override : Option Alignment) (r : Row) :
    Except Fault (List Cell) :=
  (r.cells.zip columns).mapM fun (c, column) => do
    let alignment := override.getD column.alignment
    let text ← style.measure.align c.content column.width (.choice (.alignment alignment))
    return ⟨padded text⟩

/-- Pads every cell of a row with one space. -/
def padCells (r : Row) : List Cell := r.cells.map fun c => ⟨padded c.content⟩

/-- Writes the delimiter cells of a row to the widths of their columns. -/
def fillBars (columns : List Column) (r : Row) : List Cell :=
  (r.alignments.zip columns).map fun (alignment, column) =>
    ⟨delimiterText alignment column.width⟩

/-- Writes the delimiter cells of a row with the least number of dashes. -/
def shortBars (style : Style) (r : Row) : List Cell :=
  r.alignments.map fun alignment => ⟨delimiterText alignment style.minDashes⟩

end Row

/-! ## Tables -/

/-- A formatted table. -/
structure Formatted where
  table : Table
  /-- The left margin of every row. -/
  marginLeft : Text
  deriving DecidableEq, Repr, Inhabited

namespace Table

/-- The table of as many bare margins as there are rows. -/
def collapse (margin : Text) (t : Table) : Table := ⟨t.rows.map fun _ => Row.formatted margin []⟩

/-- The normal layout. -/
def Parts.formatNormal (style : Style) (p : Parts) : Except Fault Parts := do
  let fallback ← style.defaultAlignment.toAlignment
  let override ← style.headerOverride
  let columns := p.columns style fallback
  let margin := p.header.marginLeft
  let header ← p.header.fillColumns style columns override
  let body ← p.body.mapM fun r => r.fillColumns style columns none
  return {
    header := .formatted margin header
    delimiter? := p.delimiter?.map fun delimiter => .formatted margin (delimiter.fillBars columns)
    body := body.map (.formatted margin) }

/-- The weak layout. -/
def Parts.formatWeak (style : Style) (p : Parts) : Parts :=
  let margin := p.header.marginLeft
  { header := .formatted margin p.header.padCells
    delimiter? := p.delimiter?.map fun delimiter => .formatted margin (delimiter.shortBars style)
    body := p.body.map fun r => .formatted margin r.padCells }

/-- Formats the parts of a table in a layout. -/
def Parts.format (style : Style) (layout : Layout) (p : Parts) : Except Fault Parts :=
  match layout with
  | .normal => p.formatNormal style
  | .weak => .ok (p.formatWeak style)

/-- Formats a table in a layout. -/
def formatIn (style : Style) (layout : Layout) (t : Table) : Except Fault Formatted :=
  match t.parts? with
  | none => .ok ⟨t, []⟩
  | some p =>
    let margin := p.header.marginLeft
    if p.header.cells = [] then .ok ⟨t.collapse margin, margin⟩
    else do return ⟨(← p.format style layout).toTable, margin⟩

/-- Formats a table in the layout of the style. -/
def format (style : Style) (t : Table) : Except Fault Formatted :=
  match style.layout.layout? with
  | none => .error (.unknownLayout style.layout)
  | some layout => t.formatIn style layout

end Table

end PipeTable
