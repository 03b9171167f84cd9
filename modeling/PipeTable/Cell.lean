import PipeTable.Delimiter

/-!
# Cells

A cell is the raw text between two pipes. Its content is that text trimmed, and what the trimming
takes off is the padding. Offsets convert between the raw text and the content; those in the
padding go to the nearer end of the content.
-/

namespace PipeTable

/-- The text between two pipes. -/
structure Cell where
  raw : Text
  deriving DecidableEq, Repr, Inhabited

namespace Cell

/-- The cell without text. -/
def empty : Cell := ⟨[]⟩

/-- The delimiter cell of a column without an alignment. -/
def bar (dashes : Int) : Cell := ⟨delimiterText .unset dashes⟩

/-- The trimmed text. -/
def content (c : Cell) : Text := c.raw.trim

/-- The characters before the content. A blank cell counts one, where a cursor would be put, unless
it is empty. -/
def paddingLeft (c : Cell) : Nat :=
  if c.content = [] then min 1 c.raw.length
  else c.raw.length - c.raw.trimStart.length

/-- The characters after the content. -/
def paddingRight (c : Cell) : Nat := c.raw.length - c.content.length - c.paddingLeft

/-! ## Delimiter cells -/

/-- What the cell says as a delimiter cell; none if it is no such cell. -/
def delimiter? (c : Cell) : Option Delimiter := Delimiter.ofText? c.content

/-- Whether the cell is a delimiter cell. -/
def isDelimiter (c : Cell) : Bool := c.delimiter?.isSome

/-- The alignment that a delimiter cell declares; none for other cells. -/
def alignment? (c : Cell) : Option Alignment := c.delimiter?.map (·.alignment)

/-- The alignment that the cell declares; a cell that declares none leaves it unset. -/
def alignment (c : Cell) : Alignment := c.alignment?.getD .unset

/-! ## Offsets -/

/-- The offset in the raw text of an offset in the content. -/
def rawOffset (c : Cell) (contentOffset : Int) : Int := contentOffset + c.paddingLeft

/-- The offset in the content of an offset in the raw text. -/
def contentOffset (c : Cell) (rawOffset : Int) : Nat :=
  min (rawOffset - c.paddingLeft).toNat c.content.length

/-- An offset in the content stays within it. -/
theorem contentOffset_le (c : Cell) (rawOffset : Int) :
    c.contentOffset rawOffset ≤ c.content.length :=
  Nat.min_le_right _ _

end Cell

end PipeTable
