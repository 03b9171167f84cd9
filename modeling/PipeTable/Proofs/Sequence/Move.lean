import PipeTable.Proofs.Refusal
import PipeTable.Proofs.Sequence

/-!
# Moves

Which element a move brings to a place depends on the places alone, and not on the elements
(`Sequence.origin`).  So it makes no difference whether something is done to the elements one by one
before they move or afterwards: whether a function is applied to them (`map_move`), another list is
laid beside them (`zip_move`), or a pass over them may refuse, though for one fault only
(`mapM_move`).  A move back undoes a move (`move_move`).
-/

namespace PipeTable

namespace Sequence

variable {α β : Type} {l : List α} {index dest k : Nat}

/-! ## Where elements come from -/

/-- The place that the element of a place had before a move. -/
def origin (index dest k : Nat) : Nat :=
  if k = dest then index else besides index (if k < dest then k else k - 1)

/-- All places but one are those besides it. -/
lemma besides_sub_one (h : k ≠ dest) : besides dest (if k < dest then k else k - 1) = k := by
  by_cases hk : k < dest
  · rw [if_pos hk, besides, if_pos hk]
  · rw [if_neg hk, besides, if_neg (by omega)]
    omega

lemma getElem?_move (hindex : index < l.length) (hdest : dest < l.length) (k : Nat) :
    (move l index dest)[k]? = l[origin index dest k]? := by
  unfold origin
  split
  · next hk => rw [hk, getElem?_move_dest hindex hdest]
  · next hk => rw [← getElem?_move_besides hindex dest, besides_sub_one hk]

lemma origin_of_lt (hindex : k < index) (hdest : k < dest) : origin index dest k = k := by
  rw [origin, if_neg (Nat.ne_of_lt hdest), if_pos hdest, besides, if_pos hindex]

/-- A move within the places from `first` on brings nothing there from before. -/
lemma le_origin {first : Nat} (hindex : first ≤ index) (hdest : first ≤ dest) (hk : first ≤ k) :
    first ≤ origin index dest k := by
  unfold origin besides
  split
  · exact hindex
  · split <;> split <;> omega

lemma origin_lt {size : Nat} (hindex : index < size) (hdest : dest < size) (hk : k < size) :
    origin index dest k < size := by
  unfold origin besides
  split
  · exact hindex
  · split <;> split <;> omega

/-- A move puts into each place the number of the place that it brings there. -/
lemma move_range {size : Nat} (hindex : index < size) (hdest : dest < size) :
    move (List.range size) index dest = (List.range size).map (origin index dest) := by
  have hlen : (move (List.range size) index dest).length = size := by
    rw [length_move (by rwa [List.length_range]), List.length_range]
  refine List.ext_getElem? fun k => ?_
  by_cases hk : k < size
  · rw [getElem?_move (by rwa [List.length_range]) (by rwa [List.length_range]), List.getElem?_map,
      List.getElem?_range hk, List.getElem?_range (origin_lt hindex hdest hk), Option.map_some]
  · rw [List.getElem?_eq_none (by omega), List.getElem?_eq_none]
    rw [List.length_map, List.length_range]
    exact Nat.le_of_not_lt hk

/-! ## What is done to the elements -/

lemma map_move (f : α → β) (l : List α) (index dest : Nat) :
    (move l index dest).map f = move (l.map f) index dest := by
  unfold move
  rw [List.getElem?_map]
  cases l[index]? with
  | none => rfl
  | some x =>
    dsimp only [Option.map_some]
    rw [List.map_insertIdx, List.eraseIdx_map]

lemma zip_move {m : List β} (h : l.length = m.length) (index dest : Nat) :
    (move l index dest).zip (move m index dest) = move (l.zip m) index dest := by
  have hfst : (l.zip m).map Prod.fst = l := List.map_fst_zip (Nat.le_of_eq h)
  have hsnd : (l.zip m).map Prod.snd = m := List.map_snd_zip (Nat.le_of_eq h.symm)
  refine (List.zip_of_prod ?_ ?_).symm
  · rw [map_move, hfst]
  · rw [map_move, hsnd]

lemma mem_move (hdest : dest < l.length) (index : Nat) {x : α} : x ∈ move l index dest ↔ x ∈ l :=
  (perm_move hdest index).mem_iff

lemma forall₂_move {R : α → β → Prop} {m : List β} (h : List.Forall₂ R l m)
    (hdest : dest < l.length) (index : Nat) :
    List.Forall₂ R (move l index dest) (move m index dest) := by
  have hlen : (move l index dest).length = (move m index dest).length := by
    rw [length_move hdest, length_move (h.length_eq ▸ hdest), h.length_eq]
  refine List.forall₂_iff_zip.2 ⟨hlen, fun hab => ?_⟩
  rw [zip_move h.length_eq] at hab
  exact List.forall₂_zip h (mem_of_mem_move hab)

/-- A pass that refuses for one fault only makes the same of a list and of the moved list, since the
fault is the same wherever it is met first. -/
lemma mapM_move {f : α → Except Fault β} (fault : Fault)
    (hf : ∀ a ∈ l, ∀ e, f a = .error e → e = fault) (hdest : dest < l.length) (index : Nat) :
    (move l index dest).mapM f = (l.mapM f).map fun ys => move ys index dest := by
  have hbad (a : α) (ha : a ∈ l) (e : Fault) : f a = .error e ↔ f a = .error fault ∧ e = fault := by
    constructor
    · intro he
      obtain rfl := hf a ha e he
      exact ⟨he, rfl⟩
    · rintro ⟨he, rfl⟩
      exact he
  cases h : l.mapM f with
  | ok ys => exact mapM_eq_ok_iff.2 (forall₂_move (mapM_eq_ok_iff.1 h) hdest index)
  | error e =>
    obtain ⟨⟨a, ha, hrefused⟩, rfl⟩ := (mapM_eq_error_iff hbad).1 h
    have hmoved (a : α) (ha : a ∈ move l index dest) := hbad a ((mem_move hdest index).1 ha)
    exact (mapM_eq_error_iff hmoved).2 ⟨⟨a, (mem_move hdest index).2 ha, hrefused⟩, rfl⟩

/-! ## Moves of moves -/

/-- A move behind the first element is a move of the others. -/
lemma move_cons_succ (x : α) (l : List α) (index dest : Nat) :
    move (x :: l) (index + 1) (dest + 1) = x :: move l index dest := by
  unfold move
  rw [List.getElem?_cons_succ]
  cases l[index]? with
  | none => rfl
  | some y =>
    dsimp only
    rw [List.eraseIdx_cons_succ, List.insertIdx_succ_cons]

/-- A move behind some elements is a move of the others. -/
lemma move_append (l m : List α) (index dest : Nat) :
    move (l ++ m) (l.length + index) (l.length + dest) = l ++ move m index dest := by
  induction l with
  | nil => rw [List.length_nil, Nat.zero_add, Nat.zero_add, List.nil_append, List.nil_append]
  | cons x l ih =>
    rw [List.length_cons, Nat.add_right_comm _ 1 index, Nat.add_right_comm _ 1 dest,
      List.cons_append, move_cons_succ, ih, List.cons_append]

lemma move_move (hindex : index < l.length) (hdest : dest < l.length) :
    move (move l index dest) dest index = l := by
  have hmoved : move l index dest = (l.eraseIdx index).insertIdx dest l[index] := by
    rw [move, List.getElem?_eq_getElem hindex]
  have hback : (move l index dest)[dest]? = some l[index] := by
    rw [getElem?_move_dest hindex hdest, List.getElem?_eq_getElem hindex]
  rw [move, hback]
  dsimp only
  rw [hmoved, List.eraseIdx_insertIdx_self, List.insertIdx_eraseIdx_getElem hindex]

/-! ## Ranges -/

/-- A move between two different places of a range, the last place of which is left out. -/
structure Moves (first stop : Nat) (index dest : Int) : Prop where
  ne : index ≠ dest
  first_le_index : first ≤ index
  index_lt : index < stop
  first_le_dest : first ≤ dest
  dest_lt : dest < stop

namespace Moves

variable {first stop : Nat} {index dest : Int}

lemma symm (h : Moves first stop index dest) : Moves first stop dest index :=
  ⟨h.ne.symm, h.first_le_dest, h.dest_lt, h.first_le_index, h.index_lt⟩

lemma first_le_toNat (h : Moves first stop index dest) : first ≤ index.toNat := by
  have hfirst := h.first_le_index
  omega

lemma toNat_lt (h : Moves first stop index dest) : index.toNat < stop := by
  have hfirst := h.first_le_index
  have hlt := h.index_lt
  omega

/-- The moved element is found at the other place. -/
lemma get?_move (h : Moves first l.length index dest) :
    get? (move l index.toNat dest.toNat) dest = get? l index := by
  have hindex : 0 ≤ index := Int.le_trans (Int.natCast_nonneg first) h.first_le_index
  have hdest : 0 ≤ dest := Int.le_trans (Int.natCast_nonneg first) h.first_le_dest
  rw [get?, get?, if_pos hindex, if_pos hdest]
  exact getElem?_move_dest h.toNat_lt h.symm.toNat_lt

end Moves

end Sequence

end PipeTable
