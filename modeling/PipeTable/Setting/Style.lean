import PipeTable.Setting.Measure

/-!
# Styles

A style says how tables are completed, formatted and edited. Its settings are kept as the values
that they were given as: a word is turned into the choice it names while the style is read, and
any other value is kept, to be accepted or rejected where it is used. So a style can hold a choice
of another vocabulary, which works where its word makes sense.
-/

namespace PipeTable

/-- How tables are laid out. -/
structure Style where
  /-- One of the layouts. -/
  layout : Value
  /-- The least number of dashes in a delimiter cell. -/
  dashes : Value
  /-- The alignment of columns that declare none. -/
  defaultAlignment : Value
  /-- The alignment of header cells. -/
  headerAlignment : Value
  /-- How the contents of cells are measured; plainly, if nothing is said. -/
  measure? : Option Measure
  deriving BEq, Inhabited

/-- The layout that a value is. -/
def Value.layout? : Value → Option Layout
  | .choice (.layout l) => some l
  | _ => none

/-- Whether a value is the policy that header cells follow their columns. -/
def Value.isFollow : Value → Bool
  | .choice (.headerAlignment .follow) => true
  | _ => false

namespace Style

/-- The style of whoever says nothing: aligned cells, three dashes, columns to the left, and header
cells like their columns. -/
def standard : Style where
  layout := .choice (.layout .normal)
  dashes := .int 3
  defaultAlignment := .choice (.defaultAlignment .left)
  headerAlignment := .choice (.headerAlignment .follow)
  measure? := some .plain

/-- The least number of dashes in a delimiter cell, as a whole number; a truth value counts as one
or zero. Styles are specified for these values only. With any other, an operation that needs the
number may end in an error of the host's own, which is no `Fault`; here the value is read as zero. -/
def minDashes (style : Style) : Int := style.dashes.int?.getD 0

/-- The measure of the contents of cells. -/
def measure (style : Style) : Measure := style.measure?.getD .plain

/-- The alignment that the style prescribes for all header cells, if it does. -/
def headerOverride (style : Style) : Except Fault (Option Alignment) :=
  if style.headerAlignment.isFollow then .ok none
  else do return some (← style.headerAlignment.toAlignment)

/-! ## Reading -/

/-- Turns a word into the choice that it names, and keeps every other value. -/
def resolve (vocabulary : Vocabulary) (choice? : Text → Option Choice) :
    Value → Except Fault Value
  | .text word =>
    match choice? word with
    | some c => .ok (.choice c)
    | none => .error (.unknownWord word vocabulary)
  | v => .ok v

/-- The field of a name, or a value to use where the settings do not have it. -/
def fieldOr (settings : Value) (name : Text) (fallback : Value) : Value :=
  (settings.field? name).getD fallback

/-- Reads the measure of a style: none where the settings say so, and the plain one where they do
not mention it. Styles are specified for an object or nothing here. With a value of any other kind,
an operation that measures a text may end in an error of the host's own, which is no `Fault`; here
the value is read as none, so that texts are measured plainly. -/
def measureOfValue? : Option Value → Except Fault (Option Measure)
  | none => .ok (some .plain)
  | some (.object fields) => do return some (← Measure.ofValue (.object fields))
  | some _ => .ok none

/-- Reads a style. Fields that it does not know are ignored. -/
def ofValue (settings : Value) : Except Fault Style := do
  let layout ← resolve .layout (fun word => (Layout.ofWord? word).map .layout)
    (fieldOr settings "format_type".toList standard.layout)
  let defaultAlignment ← resolve .defaultAlignment
    (fun word => (Side.ofWord? word).map .defaultAlignment)
    (fieldOr settings "default_alignment".toList standard.defaultAlignment)
  let headerAlignment ← resolve .headerAlignment
    (fun word => (HeaderAlignment.ofWord? word).map .headerAlignment)
    (fieldOr settings "header_alignment".toList standard.headerAlignment)
  let measure? ← measureOfValue? (settings.field? "text_width_options".toList)
  let dashes := fieldOr settings "min_delimiter_width".toList standard.dashes
  return { layout, dashes, defaultAlignment, headerAlignment, measure? }

end Style

end PipeTable
