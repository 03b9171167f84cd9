import Mathlib.Data.List.Forall2
import Mathlib.Data.List.InsertIdx
import Mathlib.Data.List.Perm.Basic
import PipeTable.Sequence

/-!
# Elements of sequences

Three kinds of facts are wanted about the lists that tables consist of.  Extending a list and moving
an element of it bring in nothing but what was given (`Sequence.forall_mem_extend`,
`Sequence.mem_of_mem_move`).  Putting an element in, taking one out and moving one leave all others
in their order: the places of the others are counted by `Sequence.besides`, before and after.  And
formatting gives every row of a table and every cell of a row a
counterpart, at the same place and in a fixed relation to it; the lemmas on these go from a
correspondence of two lists, or of two options, to single elements of them or to what a function
makes of both.
-/

namespace PipeTable

/-! ## Operations -/

namespace Sequence

variable {α : Type}

lemma forall_mem_extend {P : α → Prop} {l : List α} (hl : ∀ x ∈ l, P x) {fill : Nat → α}
    (hfill : ∀ index, P (fill index)) (size : Nat) : ∀ x ∈ extend l size fill, P x := by
  intro x hx
  rcases List.mem_append.1 hx with hx | hx
  · exact hl x hx
  · obtain ⟨index, -, rfl⟩ := List.mem_map.1 hx
    exact hfill index

/-- A list that is too short gets the element that is made from its length. -/
lemma mem_extend_of_lt {l : List α} {size : Nat} (h : l.length < size) (fill : Nat → α) :
    fill l.length ∈ extend l size fill := by
  refine List.mem_append_right l (List.mem_map_of_mem ?_)
  rw [List.mem_range'_1]
  omega

lemma mem_of_mem_move {l : List α} {index dest : Nat} {x : α} (h : x ∈ move l index dest) :
    x ∈ l := by
  unfold move at h
  cases hl : l[index]? with
  | none => rwa [hl] at h
  | some y =>
    rw [hl] at h
    rcases List.eq_or_mem_of_mem_insertIdx h with rfl | h
    · exact List.mem_of_getElem? hl
    · exact List.mem_of_mem_eraseIdx h

/-- An element that is moved to another place of the list is still there. -/
lemma perm_move {l : List α} {dest : Nat} (h : dest < l.length) (index : Nat) :
    (move l index dest).Perm l := by
  unfold move
  cases hl : l[index]? with
  | none => exact .refl l
  | some x =>
    obtain ⟨hindex, rfl⟩ := List.getElem?_eq_some_iff.1 hl
    have hdest : dest ≤ (l.eraseIdx index).length := by
      rw [List.length_eraseIdx_of_lt hindex]
      omega
    exact (List.perm_insertIdx l[index] _ hdest).trans (List.getElem_cons_eraseIdx_perm hindex)

lemma length_move {l : List α} {dest : Nat} (h : dest < l.length) (index : Nat) :
    (move l index dest).length = l.length :=
  (perm_move h index).length_eq

/-- Whatever stands before both places stays where it is. -/
lemma getElem?_move_of_lt {index dest k : Nat} (hindex : k < index) (hdest : k < dest)
    (l : List α) : (move l index dest)[k]? = l[k]? := by
  unfold move
  cases l[index]? with
  | none => rfl
  | some x =>
    dsimp only
    rw [List.getElem?_insertIdx_of_lt hdest, List.getElem?_eraseIdx_of_lt hindex]

/-! ### Places -/

/-- The place of one of the elements besides the one at `gap`, counted from the first. -/
def besides (gap k : Nat) : Nat := if k < gap then k else k + 1

/-- Elements that are put at the end of a list are what is found where there is no element. -/
lemma getD_getElem?_extend (l : List α) (size : Nat) (x : α) (k : Nat) :
    ((extend l size fun _ => x)[k]?).getD x = (l[k]?).getD x := by
  by_cases hk : k < l.length
  · rw [extend, List.getElem?_append_left hk]
  · rw [extend, List.getElem?_append_right (Nat.le_of_not_lt hk), List.getElem?_map,
      List.getElem?_eq_none (Nat.le_of_not_lt hk), Option.getD_none]
    cases (List.range' l.length (size - l.length))[k - l.length]? <;> rfl

lemma getElem?_extend_of_lt {l : List α} {size k : Nat} (hk : k < size) (x : α) :
    (extend l size fun _ => x)[k]? = some ((l[k]?).getD x) := by
  have hlt : k < (extend l size fun _ => x).length := by
    rw [length_extend]
    omega
  rw [← getD_getElem?_extend l size x k, List.getElem?_eq_getElem hlt, Option.getD_some]

lemma getElem?_insertIdx_besides (l : List α) (index : Nat) (x : α) (k : Nat) :
    (l.insertIdx index x)[besides index k]? = l[k]? := by
  unfold besides
  split
  · next hk => rw [List.getElem?_insertIdx_of_lt hk]
  · next hk => rw [List.getElem?_insertIdx_of_gt (by omega), Nat.add_sub_cancel]

lemma getElem?_eraseIdx_besides (l : List α) (index k : Nat) :
    (l.eraseIdx index)[k]? = l[besides index k]? := by
  rw [List.getElem?_eraseIdx, besides]
  split <;> rfl

lemma getElem?_move_dest {l : List α} {index dest : Nat} (hindex : index < l.length)
    (hdest : dest < l.length) : (move l index dest)[dest]? = l[index]? := by
  have hle : dest ≤ (l.eraseIdx index).length := by
    rw [List.length_eraseIdx_of_lt hindex]
    omega
  rw [move, List.getElem?_eq_getElem hindex]
  exact List.getElem?_insertIdx_self.trans (if_pos hle)

lemma getElem?_move_besides {l : List α} {index : Nat} (hindex : index < l.length)
    (dest k : Nat) : (move l index dest)[besides dest k]? = l[besides index k]? := by
  rw [move, List.getElem?_eq_getElem hindex]
  exact (getElem?_insertIdx_besides _ dest _ k).trans (getElem?_eraseIdx_besides l index k)

end Sequence

/-! ## Counterparts -/

variable {α β γ : Type} {R : α → β → Prop} {l : List α} {l' : List β}

lemma forall₂_mem (h : List.Forall₂ R l l') :
    List.Forall₂ (fun a b => a ∈ l ∧ R a b) l l' :=
  List.forall₂_iff_zip.2 ⟨h.length_eq, fun hab => ⟨(List.of_mem_zip hab).1, List.forall₂_zip h hab⟩⟩

/-- What relates the pairs of two lists to the results relates the first list to them, if the second
one is long enough. -/
lemma forall₂_of_zip {R : α → γ → Prop} {ys : List γ} (hlen : l.length ≤ l'.length)
    (h : List.Forall₂ (fun p y => R p.1 y) (l.zip l') ys) : List.Forall₂ R l ys := by
  have hfst : (l.zip l').map Prod.fst = l := List.map_fst_zip hlen
  rw [← hfst, List.forall₂_map_left_iff]
  exact h

lemma exists_getElem?_of_forall₂ (h : List.Forall₂ R l l') {k : Nat} {a : α}
    (ha : l[k]? = some a) : ∃ b, l'[k]? = some b ∧ R a b := by
  obtain ⟨hk, rfl⟩ := List.getElem?_eq_some_iff.1 ha
  have hk' : k < l'.length := h.length_eq ▸ hk
  exact ⟨l'[k], List.getElem?_eq_getElem hk', h.get hk hk'⟩

lemma exists_mem_of_forall₂ (h : List.Forall₂ R l l') {b : β} (hb : b ∈ l') :
    ∃ a ∈ l, R a b := by
  obtain ⟨k, hk', rfl⟩ := List.getElem_of_mem hb
  have hk : k < l.length := h.length_eq.symm ▸ hk'
  exact ⟨l[k], List.getElem_mem hk, h.get hk hk'⟩

/-- What a relation makes of a list and what another one makes of it correspond to each other. -/
lemma forall₂_of_common {S : α → γ → Prop} {T : β → γ → Prop} {l'' : List γ}
    (h : List.Forall₂ R l l') (h' : List.Forall₂ S l l'') (hT : ∀ a b c, R a b → S a c → T b c) :
    List.Forall₂ T l' l'' := by
  induction h generalizing l'' with
  | nil =>
    cases h'
    exact .nil
  | cons hab _ ih =>
    cases h' with
    | cons hac h' => exact .cons (hT _ _ _ hab hac) (ih h')

lemma map_eq_of_forall₂ {f : α → γ} {g : β → γ} (hfg : ∀ a b, R a b → g b = f a)
    (h : List.Forall₂ R l l') : l'.map g = l.map f := by
  induction h with
  | nil => rfl
  | cons hab _ ih => rw [List.map_cons, List.map_cons, hfg _ _ hab, ih]

/-! ## At most one element -/

lemma map_eq_of_rel {a? : Option α} {b? : Option β} {f : α → γ} {g : β → γ}
    (hfg : ∀ a b, R a b → g b = f a) (h : Option.Rel R a? b?) : b?.map g = a?.map f := by
  cases h with
  | none => rfl
  | some hab => exact congrArg some (hfg _ _ hab)

lemma eq_none_of_rel {b? : Option β} (h : Option.Rel R none b?) : b? = none := by
  cases h with
  | none => rfl

lemma exists_of_rel_left {a : α} {b? : Option β} (h : Option.Rel R (some a) b?) :
    ∃ b, b? = some b ∧ R a b := by
  cases h with
  | some hab => exact ⟨_, rfl, hab⟩

lemma exists_of_rel_right {a? : Option α} {b : β} (h : Option.Rel R a? (some b)) :
    ∃ a, a? = some a ∧ R a b := by
  cases h with
  | some hab => exact ⟨_, rfl, hab⟩

end PipeTable
