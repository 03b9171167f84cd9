import PipeTable.Text.Quoted

/-!
# Notes

Operations leave notes for whoever follows them closely: a delimiter row that was added, an edit
that changed nothing, a summary of a reformatting. A note belongs to a channel, and the channels
of a program are nested under a root of its own.
-/

namespace PipeTable

/-- Where a note comes from. -/
inductive Channel
  /-- Operations on tables. -/
  | formatter
  /-- Operations on the lines of an editor. -/
  | editing
  deriving DecidableEq, Repr

/-- The name of a channel. -/
def Channel.name : Channel → Text
  | .formatter => "formatter".toList
  | .editing => "editing".toList

/-- A name nested under a root. The root itself and what is nested under it already are kept. -/
def nestUnder (root name : Text) : Text :=
  if name = root || (root ++ ['.']).isPrefixOf name then name else root ++ '.' :: name

/-- A name that was nested is not nested again. -/
theorem nestUnder_nestUnder (root name : Text) :
    nestUnder root (nestUnder root name) = nestUnder root name := by
  by_cases h : (name = root || (root ++ ['.']).isPrefixOf name) = true
  · simp only [nestUnder, h, ↓reduceIte]
  · have hp : (root ++ ['.']).isPrefixOf (root ++ '.' :: name) = true :=
      List.isPrefixOf_iff_prefix.2 ⟨name, by simp⟩
    have hn : nestUnder root name = root ++ '.' :: name := by
      unfold nestUnder
      rw [if_neg h]
    rw [hn]
    unfold nestUnder
    rw [if_pos (by simp [hp])]

/-- What an operation has to tell. -/
inductive Note
  /-- A delimiter row of so many columns was added. -/
  | delimiterInserted (columns : Nat)
  /-- The alignment of the column was not changed. -/
  | alignmentKept (column : Int)
  /-- The row was not deleted. -/
  | rowKept (row : Int)
  /-- The header has no cells, and the lines were left as they are. -/
  | headerEmpty (lines : Nat)
  /-- A table of so many rows was written. -/
  | reformatted (rows : Nat) (inserted : Bool)
  deriving DecidableEq, Repr

namespace Note

/-- The channel of a note. -/
def channel : Note → Channel
  | .delimiterInserted _ | .alignmentKept _ | .rowKept _ => .formatter
  | .headerEmpty _ | .reformatted _ _ => .editing

/-- The text of a note. -/
def message : Note → Text
  | .delimiterInserted columns =>
    "Inserted delimiter row into ".toList ++ Text.ofNat columns ++ "-column table".toList
  | .alignmentKept column =>
    "Alignment of column ".toList ++ Text.ofInt column ++ " left unchanged".toList
  | .rowKept row => "Row ".toList ++ Text.ofInt row ++ " not deleted".toList
  | .headerEmpty lines =>
    "Header has no cells, ".toList ++ Text.ofNat lines ++ " lines left unchanged".toList
  | .reformatted rows inserted =>
    "Reformatted ".toList ++ Text.ofNat rows ++ "-row table (delimiter inserted: ".toList ++
      (if inserted then "True)".toList else "False)".toList)

end Note

end PipeTable
