import PipeTable.Setting.Value

/-!
# Faults

The ways in which an operation can refuse. Reading never does, and edits with indices out of range
leave the table as it is: what is refused is a table without rows, and a setting that cannot be
used. A rejected value is kept in the fault, and its message shows it in its printed form.
-/

namespace PipeTable

/-- The vocabularies whose words the host may write as texts. -/
inductive Vocabulary
  | layout
  | defaultAlignment
  | headerAlignment
  deriving DecidableEq, Repr, Inhabited

/-- The name of a vocabulary in messages. -/
def Vocabulary.name : Vocabulary → Text
  | .layout => "FormatType".toList
  | .defaultAlignment => "DefaultAlignment".toList
  | .headerAlignment => "HeaderAlignment".toList

/-- Why an operation refuses. -/
inductive Fault
  /-- Any other reason, in its own words. -/
  | general (wording : Text)
  /-- A header is needed and the table has no rows. -/
  | emptyTable (wording : Text)
  /-- The value is no alignment. -/
  | unknownAlignment (value : Value)
  /-- The value is the unset alignment, where a side is needed. -/
  | unexpectedAlignment (value : Value)
  /-- The value is neither of the layouts. -/
  | unknownLayout (value : Value)
  /-- The word is none of the vocabulary. -/
  | unknownWord (word : Text) (vocabulary : Vocabulary)
  /-- The number is that of no code point. -/
  | noCodePoint (number : Int)

namespace Fault

/-- The fault of an operation that needs a header. -/
def noRows : Fault := .emptyTable "Empty table".toList

/-- The words that some values make up: one value in its plain form, several as a tuple. -/
def wording : List Value → Text
  | [] => []
  | [v] => v.plain
  | vs => '(' :: Value.commaSeparated (vs.map (·.printed)) ++ [')']

/-- The text of a fault. -/
def message : Fault → Text
  | .general wording => wording
  | .emptyTable wording => wording
  | .unknownAlignment value => "Unknown alignment: ".toList ++ value.printed
  | .unexpectedAlignment value => "Unexpected default alignment: ".toList ++ value.printed
  | .unknownLayout value => "Unknown format type: ".toList ++ value.printed
  | .unknownWord word vocabulary =>
    word.quoted ++ " is not a valid ".toList ++ vocabulary.name
  | .noCodePoint _ => "chr() arg not in range(0x110000)".toList

/-- Whether the fault lies with a table or with a setting at its use. The others arise while
settings are read. -/
def arisesInUse : Fault → Bool
  | .unknownWord _ _ | .noCodePoint _ => false
  | _ => true

end Fault

/-! ## Values as alignments -/

/-- The alignment that a value names: a choice by its word, a text as the word itself. -/
def Value.alignment? : Value → Option Alignment
  | .choice c => c.alignment?
  | .text word => Alignment.ofWord? word
  | _ => none

/-- The alignment that a value names, or the fault of naming none. -/
def Value.toAlignment (v : Value) : Except Fault Alignment :=
  match v.alignment? with
  | some a => .ok a
  | none => .error (.unknownAlignment v)

/-- The side that a value names, or the fault of naming none. -/
def Value.toSide (v : Value) : Except Fault Side :=
  match v.alignment? with
  | some (.to side) => .ok side
  | some .unset => .error (.unexpectedAlignment v)
  | none => .error (.unknownAlignment v)

end PipeTable
