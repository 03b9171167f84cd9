import PipeTable.Text.Basic

/-!
# Segments

Three characters have a meaning of their own in the line of a table, the pipe, the backslash and the
backtick. All others stand for themselves.

A line is split into segments at its pipes. A pipe does not split when a backslash stands before
it, nor inside a code span: a run of backticks opens a span, and the next run of exactly as many
closes it. A run that nothing closes is read one backtick at a time, each a plain character, so
that its later part may open a span after all. Escapes and spans stay in the segment as written.

The scan is a recursion over the characters that counts those still held: a held character belongs
to an escape or a span and is kept whatever it is. The main statement is `join_segments`: the
segments with pipes between them are the line.
-/

namespace PipeTable

/-! ## Markup characters -/

/-- The pipe, which separates cells. -/
def pipe : Char := '|'

/-- The backslash, which takes the meaning off the character after it. -/
def backslash : Char := '\\'

/-- The backtick, runs of which surround code spans. -/
def backtick : Char := '\x60'

/-- Whether a character has a meaning of its own. -/
def isMarkup (c : Char) : Bool := c = pipe || c = backslash || c = backtick

namespace Segment

/-! ## Code spans -/

/-- The number of characters up to the end of the run that closes a span of `size` backticks. A run
of `run` backticks stands right before the text; it is the closing one if it has the size and goes
no further. -/
def closing? (size : Nat) : (run : Nat) → Text → Option Nat
  | run, [] => if run = size then some 0 else none
  | run, c :: rest =>
    if c = backtick then (closing? size (run + 1) rest).map (· + 1)
    else if run = size then some 0
    else (closing? size 0 rest).map (· + 1)

/-- The number of characters after a backtick that belong to the span it opens, zero if it opens
none. -/
def spanLength (rest : Text) : Nat :=
  let more := (rest.takeWhile (· == backtick)).length
  match closing? (more + 1) 0 (rest.drop more) with
  | some length => more + length
  | none => 0

/-- The number of characters that a character holds behind it: the escaped one, or the rest of the
span. -/
def heldBy (c : Char) (rest : Text) : Nat :=
  if c = backslash then 1
  else if c = backtick then spanLength rest
  else 0

/-! ## Splitting -/

/-- The segments of a line of which the first `held` characters are to be kept as they are. -/
def splitFrom : (held : Nat) → Text → List Text
  | _, [] => [[]]
  | held + 1, c :: rest => (splitFrom held rest).modifyHead (c :: ·)
  | 0, c :: rest =>
    if c = pipe then [] :: splitFrom 0 rest
    else (splitFrom (heldBy c rest) rest).modifyHead (c :: ·)

/-- A line has at least one segment. -/
theorem splitFrom_ne_nil (held : Nat) (line : Text) : splitFrom held line ≠ [] := by
  induction line generalizing held with
  | nil => simp [splitFrom]
  | cons c rest ih =>
    cases held with
    | succ held => simpa [splitFrom] using ih held
    | zero =>
      unfold splitFrom
      split
      · simp
      · simpa using ih _

/-- Splitting loses nothing but the pipes between the segments. -/
theorem join_splitFrom (held : Nat) (line : Text) :
    List.intercalate [pipe] (splitFrom held line) = line := by
  have hcons (c : Char) (l : List Text) (hl : l ≠ []) :
      List.intercalate [pipe] (l.modifyHead (c :: ·)) = c :: List.intercalate [pipe] l := by
    match l, hl with
    | [s], _ => simp
    | s :: u :: l, _ => simp
  induction line generalizing held with
  | nil => simp [splitFrom]
  | cons c rest ih =>
    cases held with
    | succ held => rw [splitFrom, hcons _ _ (splitFrom_ne_nil _ _), ih]
    | zero =>
      unfold splitFrom
      split
      · next h =>
        obtain ⟨s, l, hl⟩ := List.exists_cons_of_ne_nil (splitFrom_ne_nil 0 rest)
        have := ih 0
        rw [hl] at this ⊢
        simp [h, this]
      · rw [hcons _ _ (splitFrom_ne_nil _ _), ih]

end Segment

/-- The segments of a line: the texts between the pipes that split it. -/
def segments (line : Text) : List Text := Segment.splitFrom 0 line

/-- A pipe in a code span does not split, and one behind a backslash does not either. -/
example : segments "`a|b`|c\\|d".toList = ["`a|b`".toList, "c\\|d".toList] := by decide

/-- The second backtick of a run that nothing closes opens a span of its own. -/
example : segments "``a|`b".toList = ["``a|`b".toList] := by decide

/-- The segments with pipes between them are the line. -/
theorem join_segments (line : Text) : List.intercalate [pipe] (segments line) = line :=
  Segment.join_splitFrom 0 line

end PipeTable
