import PipeTable.Fault
import PipeTable.Text.Order

/-!
# Character sets

A setting can name a set of characters. Its elements are texts, because a host may give longer
ones; those of one character are the characters of the set. The elements are kept in increasing
order, so that two sets with the same elements are equal.
-/

namespace PipeTable

/-- A set of texts, as its increasing list. -/
structure CharSet where
  elements : List Text
  increasing : elements.Pairwise (fun t u => t.precedes u)
  deriving DecidableEq

namespace CharSet

/-- The set without elements. -/
def empty : CharSet := ⟨[], .nil⟩

instance : Inhabited CharSet := ⟨empty⟩

/-- Puts a text into its place in an increasing list, unless it is there. -/
def place (t : Text) : List Text → List Text
  | [] => [t]
  | u :: rest =>
    if t.precedes u then t :: u :: rest
    else if t = u then u :: rest
    else u :: place t rest

/-- The list has the text and what it had before. -/
theorem mem_place {t u : Text} {l : List Text} : u ∈ place t l ↔ u = t ∨ u ∈ l := by
  induction l with
  | nil => simp [place]
  | cons v rest ih =>
    unfold place
    split
    · simp
    · split
      · next h => subst h; simp
      · simp only [List.mem_cons, ih]
        constructor
        · rintro (h | h | h) <;> simp [h]
        · rintro (h | h | h) <;> simp [h]

/-- Placing a text keeps a list increasing. -/
theorem pairwise_place {l : List Text} (h : l.Pairwise (fun t u => t.precedes u)) (t : Text) :
    (place t l).Pairwise (fun t u => t.precedes u) := by
  induction l with
  | nil => exact .cons (by simp) .nil
  | cons u rest ih =>
    cases h with
    | cons hu hrest =>
      unfold place
      split
      · next htu =>
        refine .cons ?_ (.cons hu hrest)
        intro v hv
        rcases List.mem_cons.1 hv with rfl | hv
        · exact htu
        · exact Text.precedes_trans htu (hu v hv)
      · next htu =>
        split
        · exact .cons hu hrest
        · next hne =>
          refine .cons ?_ (ih hrest)
          intro v hv
          rcases mem_place.1 hv with rfl | hv
          · exact Text.precedes_of_ne hne htu
          · exact hu v hv

/-- The set with a text added. -/
def insert (t : Text) (s : CharSet) : CharSet := ⟨place t s.elements, pairwise_place s.increasing t⟩

/-- The set of the given texts. -/
def ofList (texts : List Text) : CharSet := texts.foldr insert empty

/-- Whether a character is one of the set. -/
def hasChar (s : CharSet) (c : Char) : Bool := s.elements.contains [c]

/-- The set of some texts has exactly these. -/
theorem mem_ofList {t : Text} {texts : List Text} : t ∈ (ofList texts).elements ↔ t ∈ texts := by
  induction texts with
  | nil => simp [ofList, empty]
  | cons u rest ih => simp [ofList, insert, mem_place, ← ih]

/-! ## Reading -/

/-- The element that a code point stands for. Surrogates stand for no character. -/
def codePoint (n : Int) : Except Fault (List Text) :=
  if n < 0 || 0x110000 ≤ n then .error (.noCodePoint n)
  else if 0xD800 ≤ n && n < 0xE000 then .ok []
  else .ok [[Char.ofNat n.toNat]]

/-- The elements that an item of a list stands for: a text is kept whole, a number is a code
point. Sets are specified for these items only, and an item of any other kind is left out here. -/
def itemElements (item : Value) : Except Fault (List Text) :=
  match item, item.int? with
  | .text t, _ => .ok [t]
  | _, some n => codePoint n
  | _, none => .ok []

/-- Reads a set: a text stands for its characters, a list for its items, an object for its keys.
A value of any other kind has no items, and giving one is an error of the host's own, which is no
`Fault`; here it is read as the empty set. -/
def ofValue (v : Value) : Except Fault CharSet :=
  match v with
  | .text t => .ok (ofList (t.map fun c => [c]))
  | .list items => do return ofList (← items.mapM itemElements).flatten
  | .object fields => .ok (ofList (fields.map (·.1)))
  | _ => .ok empty

end CharSet

end PipeTable
