import PipeTable.Fault
import PipeTable.Sequence

/-!
# Delimiter cells

A delimiter cell is a bar of dashes, at least one, with a colon at each end that its column is
aligned to: both for the center, none for an unset alignment. Where a bar has no colon it is
written with a space, so that all four forms of one bar have the same length.

`Delimiter.ofText?` reads the trimmed text of a cell and `delimiterText` writes one.
-/

namespace PipeTable

namespace Alignment

/-- Whether the bar of a column begins with a colon. -/
def colonBefore : Alignment → Bool
  | .to .left | .to .center => true
  | .to .right | .unset => false

/-- Whether the bar of a column ends with a colon. -/
def colonAfter : Alignment → Bool
  | .to .right | .to .center => true
  | .to .left | .unset => false

/-- The alignment with colons at the given ends. -/
def ofColons : (before after : Bool) → Alignment
  | true, true => .to .center
  | true, false => .to .left
  | false, true => .to .right
  | false, false => .unset

/-- An alignment is told from its colons. -/
@[simp] theorem ofColons_colons (a : Alignment) : ofColons a.colonBefore a.colonAfter = a := by
  rcases a with _ | side
  · rfl
  · cases side <;> rfl

@[simp] theorem colonBefore_ofColons (b a : Bool) : (ofColons b a).colonBefore = b := by
  cases b <;> cases a <;> rfl

@[simp] theorem colonAfter_ofColons (b a : Bool) : (ofColons b a).colonAfter = a := by
  cases b <;> cases a <;> rfl

end Alignment

/-- What a delimiter cell says. -/
structure Delimiter where
  alignment : Alignment
  /-- The number of dashes. -/
  dashes : Nat
  deriving DecidableEq, Repr, Inhabited

/-! ## Reading -/

namespace Delimiter

/-- Reads a bar whose first colon, if it has one, is taken off already. -/
def ofBar? (before : Bool) (bar : Text) : Option Delimiter :=
  let dashes := (bar.takeWhile (· == '-')).length
  if dashes = 0 then none
  else
    match bar.dropWhile (· == '-') with
    | [] => some ⟨.ofColons before false, dashes⟩
    | [':'] => some ⟨.ofColons before true, dashes⟩
    | _ => none

/-- Reads the trimmed text of a delimiter cell; none if it is no bar of dashes. -/
def ofText? : Text → Option Delimiter
  | ':' :: bar => ofBar? true bar
  | bar => ofBar? false bar

end Delimiter

/-! ## Writing -/

/-- The character at an end of a bar. -/
def colonOrSpace (colon : Bool) : Char := if colon then ':' else ' '

/-- The text of a delimiter cell with the given number of dashes, none if the number is negative. -/
def delimiterText (a : Alignment) (dashes : Int) : Text :=
  colonOrSpace a.colonBefore ::
    (List.replicate dashes.toNat '-' ++ [colonOrSpace a.colonAfter])

/-- All bars of one number of dashes are equally long. -/
@[simp] theorem length_delimiterText (a : Alignment) (dashes : Int) :
    (delimiterText a dashes).length = dashes.toNat + 2 := by
  simp [delimiterText]

end PipeTable
