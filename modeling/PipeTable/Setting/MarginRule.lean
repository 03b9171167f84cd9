import PipeTable.Segment
import PipeTable.Setting.Measure

/-!
# Left margins

Text in front of the first pipe of a line is a margin when it is blank. A margin rule allows more
characters there, such as the `>` of a quoted block. The characters that tables are written with
can be no margin, so an element that is one of them is passed over.
-/

namespace PipeTable

/-- What a left margin may consist of besides blanks. -/
structure MarginRule where
  chars : CharSet
  deriving DecidableEq, Inhabited

namespace MarginRule

/-- The rule that allows blanks only. -/
def blank : MarginRule := ⟨.empty⟩

/-- Whether an element of the rule is a lone markup character. -/
def isLoneMarkup : Text → Bool
  | [c] => isMarkup c
  | _ => false

/-- The characters that the rule allows. Every character of a longer element counts. -/
def allowedChars (rule : MarginRule) : Text :=
  (rule.chars.elements.filter fun element => !isLoneMarkup element).flatten

/-- Whether a character may stand in a left margin. -/
def allows (rule : MarginRule) (c : Char) : Bool := isBlankChar c || rule.allowedChars.contains c

/-- Whether a text can be a left margin. -/
def matchesAll (rule : MarginRule) (t : Text) : Bool := t.all rule.allows

/-- Blank text is a margin under every rule. -/
theorem matchesAll_of_isBlank (rule : MarginRule) {t : Text} (h : t.isBlank) :
    rule.matchesAll t := by
  simp only [matchesAll, List.all_eq_true]
  intro c hc
  simp [allows, List.all_eq_true.1 h c hc]

/-- Reads a margin rule. Fields that it does not know are ignored. -/
def ofValue (settings : Value) : Except Fault MarginRule := do
  return ⟨← Measure.chars settings "left_margin_chars".toList⟩

end MarginRule

end PipeTable
