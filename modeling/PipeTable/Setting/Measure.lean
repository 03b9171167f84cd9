import PipeTable.Setting.CharSet
import PipeTable.Text.Canonical.Composed
import PipeTable.Text.EastAsian

/-!
# Measuring texts

The width of a text is the number of columns that it takes on a terminal. A character takes one
column or two; which of them follows from its East Asian width, unless the measure lists the
character. A measure may also ask that a text be composed first, so that a letter with its accent
counts once however it is written.
-/

namespace PipeTable

/-- How texts are measured. The two flags are kept as they were given; any value that is set turns
them on. -/
structure Measure where
  /-- Measure the composed form of a text. -/
  composeFlag : Value
  /-- Characters of ambiguous width take two columns. -/
  ambiguousFlag : Value
  /-- Characters that always take two columns. -/
  wideChars : CharSet
  /-- Characters that always take one column, unless they are listed as wide. -/
  narrowChars : CharSet
  deriving BEq, Inhabited

namespace Measure

/-- Whether the composed form of a text is measured. -/
def composes (m : Measure) : Bool := m.composeFlag.isSet

/-- Whether characters of ambiguous width take two columns. -/
def ambiguousWide (m : Measure) : Bool := m.ambiguousFlag.isSet

/-- The measure that adds nothing to the East Asian widths. -/
def plain : Measure := ⟨.bool false, .bool false, .empty, .empty⟩

/-- The columns that a character takes. -/
def charWidth (m : Measure) (c : Char) : Nat :=
  if m.wideChars.hasChar c then 2
  else if m.narrowChars.hasChar c then 1
  else if EastAsian.isWide c || EastAsian.isAmbiguous c && m.ambiguousWide then 2
  else 1

/-- The form of a text whose characters are counted. -/
def measured (m : Measure) (t : Text) : Text := if m.composes then t.composed else t

/-- The columns that the characters of a text take, each on its own. -/
def charsWidth (m : Measure) : Text → Nat
  | [] => 0
  | c :: rest => m.charWidth c + m.charsWidth rest

/-- The columns that a text takes. -/
def width (m : Measure) (t : Text) : Nat := m.charsWidth (m.measured t)

/-- No character takes more than two columns, and each takes one. -/
theorem charWidth_bounds (m : Measure) (c : Char) : 1 ≤ m.charWidth c ∧ m.charWidth c ≤ 2 := by
  unfold charWidth
  split
  · decide
  · split
    · decide
    · split <;> decide

/-- The characters of two texts take the columns that those of each take. -/
theorem charsWidth_append (m : Measure) (t u : Text) :
    m.charsWidth (t ++ u) = m.charsWidth t + m.charsWidth u := by
  induction t with
  | nil => simp [charsWidth]
  | cons c t ih => simp [charsWidth, ih, Nat.add_assoc]

/-- Without composition, texts one after the other take the columns that each takes. -/
theorem width_append {m : Measure} (h : m.composes = false) (t u : Text) :
    m.width (t ++ u) = m.width t + m.width u := by
  simp [width, measured, h, charsWidth_append]

/-! ## Reading -/

/-- A flag of the settings, off where the settings do not have it. -/
def flag (settings : Value) (name : Text) : Value := (settings.field? name).getD (.bool false)

/-- A set of characters of the settings, empty where the settings do not have it. -/
def chars (settings : Value) (name : Text) : Except Fault CharSet :=
  match settings.field? name with
  | some v => CharSet.ofValue v
  | none => .ok .empty

/-- Reads a measure. Fields that it does not know are ignored. -/
def ofValue (settings : Value) : Except Fault Measure := do
  let wideChars ← chars settings "wide_chars".toList
  let narrowChars ← chars settings "narrow_chars".toList
  return ⟨flag settings "normalize".toList, flag settings "ambiguous_as_wide".toList,
    wideChars, narrowChars⟩

end Measure

end PipeTable
