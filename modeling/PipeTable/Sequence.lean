/-!
# Sequences

The list operations that tables are edited with: extension to a size, access by an index that may
be negative or too large, and moving one element to another place. Rows are sequences of cells and
tables are sequences of rows, so each operation is stated once for both.
-/

namespace PipeTable.Sequence

universe u

variable {α : Type u}

/-- The list extended to the given size, each new element made from its index. A list that has the
size already is kept. -/
def extend (l : List α) (size : Nat) (fill : Nat → α) : List α :=
  l ++ (List.range' l.length (size - l.length)).map fill

/-- The element at an index, none if the index is negative or too large. -/
def get? (l : List α) (index : Int) : Option α :=
  if 0 ≤ index then l[index.toNat]? else none

/-- The list with the element at one index taken out and put back at another. -/
def move (l : List α) (index dest : Nat) : List α :=
  match l[index]? with
  | some x => (l.eraseIdx index).insertIdx dest x
  | none => l

/-- Whether an index is that of one of `size` elements. -/
def inBounds (index : Int) (size : Nat) : Bool := 0 ≤ index && index < size

/-! ## Sizes -/

@[simp] theorem length_extend (l : List α) (size : Nat) (fill : Nat → α) :
    (extend l size fill).length = max l.length size := by
  simp only [extend, List.length_append, List.length_map, List.length_range']
  omega

/-- Nothing is added to a list that has the size already. -/
theorem extend_of_le {l : List α} {size : Nat} (h : size ≤ l.length) (fill : Nat → α) :
    extend l size fill = l := by
  simp [extend, Nat.sub_eq_zero_of_le h]

/-- A natural index reads like the list itself. -/
@[simp] theorem get?_natCast (l : List α) (n : Nat) : get? l (n : Int) = l[n]? := by
  simp [get?]

/-- Elements are read at indices that are not negative. -/
theorem get?_eq_some_iff {l : List α} {index : Int} {x : α} :
    get? l index = some x ↔ 0 ≤ index ∧ l[index.toNat]? = some x := by
  unfold get?
  by_cases h : 0 ≤ index
  · simp [h]
  · simp [h]

/-- Exactly the indices within the bounds have an element. -/
theorem isSome_get? (l : List α) (index : Int) :
    (get? l index).isSome = inBounds index l.length := by
  unfold get? inBounds
  by_cases h : 0 ≤ index
  · by_cases hl : index < l.length
    · have : index.toNat < l.length := by omega
      simp [h, hl, this]
    · have : ¬ index.toNat < l.length := by omega
      simp [h, hl, this]
  · simp [h]

end PipeTable.Sequence
