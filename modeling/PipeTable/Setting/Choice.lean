import PipeTable.Alignment

/-!
# Named choices

A setting that picks one of a few possibilities is made with a named choice. There are five
vocabularies of them, and several share a word: the left side is a choice of alignment, of default
alignment and of header alignment. The choices stay apart even so, because a message that rejects
one shows the vocabulary it came from; its word is what decides where it can be used.
-/

namespace PipeTable

/-- A member of one of the vocabularies. -/
inductive Choice
  | alignment (a : Alignment)
  | defaultAlignment (side : Side)
  | headerAlignment (h : HeaderAlignment)
  | layout (l : Layout)
  | edge (e : Edge)
  deriving DecidableEq, Repr, Inhabited

/-! ## Words -/

/-- The word for a side. -/
def Side.word : Side → Text
  | .left => "left".toList
  | .right => "right".toList
  | .center => "center".toList

/-- The word for an alignment. -/
def Alignment.word : Alignment → Text
  | .unset => "default".toList
  | .to side => side.word

/-- The word for the alignment of header cells. -/
def HeaderAlignment.word : HeaderAlignment → Text
  | .follow => "follow".toList
  | .to side => side.word

/-- The word for a layout. -/
def Layout.word : Layout → Text
  | .normal => "normal".toList
  | .weak => "weak".toList

/-! ## Labels -/

/-- The label of a side within its vocabulary. -/
def Side.label : Side → Text
  | .left => "LEFT".toList
  | .right => "RIGHT".toList
  | .center => "CENTER".toList

/-- The label of an alignment. -/
def Alignment.label : Alignment → Text
  | .unset => "DEFAULT".toList
  | .to side => side.label

/-- The label of a choice: its vocabulary, a dot, and its name there. -/
def Choice.label : Choice → Text
  | .alignment a => "Alignment.".toList ++ a.label
  | .defaultAlignment side => "DefaultAlignment.".toList ++ side.label
  | .headerAlignment .follow => "HeaderAlignment.FOLLOW".toList
  | .headerAlignment (.to side) => "HeaderAlignment.".toList ++ side.label
  | .layout .normal => "FormatType.NORMAL".toList
  | .layout .weak => "FormatType.WEAK".toList
  | .edge .leading => "FocusOffset.LEADING".toList
  | .edge .trailing => "FocusOffset.TRAILING".toList

/-! ## Reading -/

/-- The sides, in the order in which they are looked up. -/
def Side.all : List Side := [.left, .right, .center]

/-- All choices. -/
def Choice.all : List Choice :=
  .alignment .unset :: Side.all.map (fun side => .alignment (.to side)) ++
  Side.all.map (fun side => .defaultAlignment side) ++
  .headerAlignment .follow :: Side.all.map (fun side => .headerAlignment (.to side)) ++
  [.layout .normal, .layout .weak, .edge .leading, .edge .trailing]

/-- The side that a word names. -/
def Side.ofWord? (word : Text) : Option Side := Side.all.find? (·.word == word)

/-- The alignment that a word names. -/
def Alignment.ofWord? (word : Text) : Option Alignment :=
  if word = Alignment.unset.word then some .unset else (Side.ofWord? word).map .to

/-- The alignment of header cells that a word names. -/
def HeaderAlignment.ofWord? (word : Text) : Option HeaderAlignment :=
  if word = HeaderAlignment.follow.word then some .follow else (Side.ofWord? word).map .to

/-- The layout that a word names. -/
def Layout.ofWord? (word : Text) : Option Layout :=
  [Layout.normal, .weak].find? (·.word == word)

/-- The choice that a label names. The unset alignment goes by a second label. -/
def Choice.ofLabel? (label : Text) : Option Choice :=
  if label = "Alignment.NONE".toList then some (.alignment .unset)
  else Choice.all.find? (·.label == label)

/-- The alignment that a choice amounts to: that of the same word, whatever the vocabulary. -/
def Choice.alignment? : Choice → Option Alignment
  | .alignment a => some a
  | .defaultAlignment side => some (.to side)
  | .headerAlignment (.to side) => some (.to side)
  | .headerAlignment .follow | .layout _ | .edge _ => none

/-! ## Round trips -/

/-- A side is named by its word. -/
@[simp] theorem Side.ofWord?_word (side : Side) : Side.ofWord? side.word = some side := by
  cases side <;> decide

/-- An alignment is named by its word. -/
@[simp] theorem Alignment.ofWord?_word (a : Alignment) : Alignment.ofWord? a.word = some a := by
  rcases a with _ | (_ | _ | _) <;> decide

/-- The alignment of header cells is named by its word. -/
@[simp] theorem HeaderAlignment.ofWord?_word (h : HeaderAlignment) :
    HeaderAlignment.ofWord? h.word = some h := by
  rcases h with _ | (_ | _ | _) <;> decide

/-- A layout is named by its word. -/
@[simp] theorem Layout.ofWord?_word (l : Layout) : Layout.ofWord? l.word = some l := by
  cases l <;> decide

/-- Every choice is named by its label. -/
@[simp] theorem Choice.ofLabel?_label (c : Choice) : Choice.ofLabel? c.label = some c := by
  rcases c with (_ | (_ | _ | _)) | (_ | _ | _) | (_ | (_ | _ | _)) | (_ | _) | (_ | _) <;> decide

end PipeTable
