import PipeTable.Number.Written
import PipeTable.Setting.Choice
import PipeTable.Text.Quoted

/-!
# Setting values

Settings come from a host, such as the configuration of an editor, and hold whatever was put
there. A value is kept as it came, so that a message that rejects it can show it, and is given a
meaning only where it is used.
-/

namespace PipeTable

/-- A value as the host gives it. -/
inductive Value
  | null
  | bool (b : Bool)
  | int (n : Int)
  | real (x : Binary64)
  | text (t : Text)
  | list (items : List Value)
  | object (fields : List (Text × Value))
  | choice (c : Choice)

namespace Value

instance : Inhabited Value := ⟨.null⟩

/-! ## Printed form -/

/-- Some items with a comma and a space between any two. -/
def commaSeparated : List Text → Text
  | [] => []
  | [item] => item
  | item :: rest => item ++ ',' :: ' ' :: commaSeparated rest

/-- Numbers are written positionally from a ten-thousandth up to below ten quadrillion, and with an
exponent of two digits otherwise. -/
def numberFormat : NumberFormat := ⟨-3, 16, 2⟩

/-- The printed form of a choice shows its label and its own value: the word, or the number of the
edge. -/
def choiceText (c : Choice) : Text :=
  let value : Text := match c with
    | .alignment a => a.word.quoted
    | .defaultAlignment side => side.word.quoted
    | .headerAlignment h => h.word.quoted
    | .layout l => l.word.quoted
    | .edge .leading => ['0']
    | .edge .trailing => ['1']
  '<' :: c.label ++ ':' :: ' ' :: value ++ ['>']

mutual

/-- The printed form of a value, as messages show it. -/
def printed : Value → Text
  | .null => "None".toList
  | .bool true => "True".toList
  | .bool false => "False".toList
  | .int n => Text.ofInt n
  | .real x => numberFormat.number x
  | .text t => t.quoted
  | .list items => '[' :: commaSeparated (printedItems items) ++ [']']
  | .object fields => '\x7b' :: commaSeparated (printedFields fields) ++ ['\x7d']
  | .choice c => choiceText c

/-- The printed forms of the items of a list. -/
def printedItems : List Value → List Text
  | [] => []
  | item :: rest => item.printed :: printedItems rest

/-- The printed forms of the fields of an object. -/
def printedFields : List (Text × Value) → List Text
  | [] => []
  | (key, value) :: rest => (key.quoted ++ ':' :: ' ' :: value.printed) :: printedFields rest

end

/-- The plain form of a value, as it stands for itself: a text without quotes, a choice as its
label, an edge as its number, and any other value as it is printed. -/
def plain : Value → Text
  | .text t => t
  | .choice (.edge .leading) => ['0']
  | .choice (.edge .trailing) => ['1']
  | .choice c => c.label
  | v => v.printed

/-! ## Numbers and equality -/

/-- A value read as a whole number. The truth values count as one and zero, and an edge as its
number. -/
def int? : Value → Option Int
  | .bool b => some b.toNat
  | .int n => some n
  | .choice (.edge .leading) => some 0
  | .choice (.edge .trailing) => some 1
  | _ => none

/-- The whole number that a value is equal to, in whatever form. -/
def whole? : Value → Option Int
  | .real x => x.int?
  | v => v.int?

mutual

/-- Whether two values are the same, numbers by their size and not by their form. -/
def same : Value → Value → Bool
  | .null, .null => true
  | .text t, .text u => t == u
  | .list items, .list others => sameItems items others
  | .object fields, .object others =>
    fields.length == others.length && sameFields fields others
  | .real x, .real y => x.same y
  | .choice c, .choice d => c == d
  | v, w =>
    match v.whole?, w.whole? with
    | some m, some n => m == n
    | _, _ => false

/-- Whether two lists hold the same values in the same order. -/
def sameItems : List Value → List Value → Bool
  | [], [] => true
  | v :: vs, w :: ws => v.same w && sameItems vs ws
  | _, _ => false

/-- Whether the other object holds each of the fields, in whatever order. -/
def sameFields : List (Text × Value) → List (Text × Value) → Bool
  | [], _ => true
  | (key, v) :: rest, others =>
    (match others.lookup key with
      | some w => v.same w
      | none => false) && sameFields rest others

end

instance : BEq Value := ⟨same⟩

/-! ## Fields -/

/-- The fields of an object; any other value has none. -/
def fields : Value → List (Text × Value)
  | .object fields => fields
  | _ => []

/-- The field of a name, if the value has it. -/
def field? (v : Value) (name : Text) : Option Value := v.fields.lookup name

/-- Whether a value counts as set: all do but the missing one, false, zero and what is empty. -/
def isSet : Value → Bool
  | .null | .text [] | .list [] | .object [] => false
  | .real x => !x.isZero
  | v => v.int? != some 0

end Value

end PipeTable
