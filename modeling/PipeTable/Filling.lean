import PipeTable.Setting.Measure

/-!
# Filling a column

The content of a cell is filled with spaces up to the width of its column. The side says where the
content goes: the spaces come after it, before it, or half and half, the odd one after it. Content
that is as wide as the column, or wider, is left alone.
-/

namespace PipeTable

/-- Adds the given number of spaces around a text. -/
def Side.fill (space : Nat) (t : Text) : Side → Text
  | .left => t ++ List.replicate space ' '
  | .right => List.replicate space ' ' ++ t
  | .center =>
    List.replicate (space / 2) ' ' ++ t ++ List.replicate (space - space / 2) ' '

/-- As many spaces are added as were asked for. -/
@[simp] theorem Side.length_fill (space : Nat) (t : Text) (side : Side) :
    (side.fill space t).length = t.length + space := by
  cases side <;> simp [Side.fill] <;> omega

namespace Measure

/-- The columns that a text leaves free in a width. -/
def freeSpace (m : Measure) (t : Text) (width : Int) : Nat := (width - m.width t).toNat

/-- Fills a width with a text. -/
def fill (m : Measure) (t : Text) (width : Int) (side : Side) : Text :=
  side.fill (m.freeSpace t width) t

/-- Fills a width with a text, at the side that a value names. -/
def align (m : Measure) (t : Text) (width : Int) (value : Value) : Except Fault Text := do
  return m.fill t width (← value.toSide)

/-- A text that leaves no space free is kept. -/
theorem fill_of_width_le {m : Measure} {t : Text} {width : Int} (h : width ≤ m.width t)
    (side : Side) : m.fill t width side = t := by
  have : m.freeSpace t width = 0 := by unfold freeSpace; omega
  cases side <;> simp [fill, this, Side.fill]

end Measure

/-- A text with one space on each side. -/
def padded (t : Text) : Text := ' ' :: (t ++ [' '])

end PipeTable
