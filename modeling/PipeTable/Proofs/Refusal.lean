import Mathlib.Data.List.Forall2
import PipeTable.Fault

/-!
# Computations that may refuse

Formatting is a computation over all cells that stops at the first fault.  When it succeeds, every
step of it has succeeded, and when it refuses, one of them has refused; these lemmas take such a
computation apart without running it.  Where all steps refuse for one fault only, it does not matter
which of them comes first.
-/

namespace PipeTable

variable {α β : Type}

lemma bind_eq_ok_iff {x : Except Fault α} {f : α → Except Fault β} {b : β} :
    x >>= f = .ok b ↔ ∃ a, x = .ok a ∧ f a = .ok b := by
  cases x with
  | error e =>
    constructor
    · intro h
      cases h
    · rintro ⟨a, ha, -⟩
      cases ha
  | ok a =>
    constructor
    · intro h
      exact ⟨a, rfl, h⟩
    · rintro ⟨a', ha, h⟩
      cases ha
      exact h

/-- Two steps refuse if the first one does, or if it succeeds and the second one refuses. -/
lemma bind_eq_error_iff {x : Except Fault α} {f : α → Except Fault β} {fault : Fault} :
    x >>= f = .error fault ↔ x = .error fault ∨ ∃ a, x = .ok a ∧ f a = .error fault := by
  cases x with
  | error e =>
    constructor
    · rintro ⟨⟩
      exact .inl rfl
    · rintro (⟨⟨⟩⟩ | ⟨a, ha, -⟩)
      · rfl
      · cases ha
  | ok a =>
    constructor
    · intro h
      exact .inr ⟨a, rfl, h⟩
    · rintro (h | ⟨a', ⟨⟩, h⟩)
      · cases h
      · exact h

lemma map_eq_error_iff {x : Except Fault α} {f : α → β} {fault : Fault} :
    x.map f = .error fault ↔ x = .error fault := by
  cases x <;> constructor <;> (intro h; cases h) <;> rfl

lemma exists_of_map_eq_ok {x : Except Fault α} {f : α → β} {b : β} (h : x.map f = .ok b) :
    ∃ a, x = .ok a ∧ f a = b := by
  cases x with
  | error e => cases h
  | ok a => exact ⟨a, rfl, Except.ok.inj h⟩

lemma map_bind_eq {γ : Type} (x : Except Fault α) (f : α → Except Fault β) (g : β → γ) :
    (x >>= f).map g = x >>= fun a => (f a).map g := by
  cases x <;> rfl

/-- Where the values of one computation are made from those of another one, both fail alike, and
what becomes of the values goes together if it does so for every value. -/
lemma related_of_map {γ δ : Type} {x : Except Fault α} {y : Except Fault γ} {q : α → γ}
    (hy : y = x.map q) {f : α → β} {g : γ → δ} {R : β → δ → Prop} (h : ∀ a, R (f a) (g (q a))) :
    (∀ fault, y.map g = .error fault ↔ x.map f = .error fault) ∧
      ∀ b, x.map f = .ok b → ∃ d, y.map g = .ok d ∧ R b d := by
  subst hy
  cases x with
  | error e =>
    refine ⟨fun fault => ?_, fun b hb => by cases hb⟩
    constructor <;> (intro herror; cases herror; rfl)
  | ok a =>
    refine ⟨fun fault => by constructor <;> (intro herror; cases herror), ?_⟩
    rintro b ⟨⟩
    exact ⟨g (q a), rfl, h a⟩

/-- A pass over a list succeeds exactly when it does so at every element. -/
lemma mapM_eq_ok_iff {f : α → Except Fault β} {l : List α} {ys : List β} :
    l.mapM f = .ok ys ↔ List.Forall₂ (fun a b => f a = .ok b) l ys := by
  induction l generalizing ys with
  | nil =>
    rw [List.mapM_nil, List.forall₂_nil_left_iff]
    constructor
    · intro h
      cases h
      rfl
    · rintro rfl
      rfl
  | cons a l ih =>
    rw [List.mapM_cons, bind_eq_ok_iff]
    constructor
    · rintro ⟨b, hb, hrest⟩
      obtain ⟨bs, hbs, hys⟩ := bind_eq_ok_iff.1 hrest
      cases hys
      exact .cons hb (ih.1 hbs)
    · rintro (_ | ⟨hb, hbs⟩)
      exact ⟨_, hb, bind_eq_ok_iff.2 ⟨_, ih.2 hbs, rfl⟩⟩

/-- What a pass makes of the elements can be changed one by one, or all at once in the end. -/
lemma mapM_eq_map {γ : Type} {f : α → Except Fault β} {f' : α → Except Fault γ} {g : β → γ}
    {l : List α} (h : ∀ a ∈ l, f' a = (f a).map g) :
    l.mapM f' = (l.mapM f).map (List.map g) := by
  induction l with
  | nil => rfl
  | cons a l ih =>
    rw [List.mapM_cons, List.mapM_cons, h a List.mem_cons_self,
      ih fun b hb => h b (List.mem_cons_of_mem a hb)]
    cases f a with
    | error fault => rfl
    | ok b => cases l.mapM f <;> rfl

/-! ## One fault only -/

/-- Two steps that refuse for one fault only refuse for it if either does. -/
lemma bind_eq_error_iff_or {x : Except Fault α} {f : α → Except Fault β} {P Q : Prop}
    {fault e : Fault} (hx : ∀ e, x = .error e ↔ P ∧ e = fault)
    (hf : ∀ a e, f a = .error e ↔ Q ∧ e = fault) :
    x >>= f = .error e ↔ (P ∨ Q) ∧ e = fault := by
  cases x with
  | error e' =>
    obtain ⟨hP, rfl⟩ := (hx e').1 rfl
    constructor
    · rintro ⟨⟩
      exact ⟨.inl hP, rfl⟩
    · rintro ⟨-, rfl⟩
      rfl
  | ok a =>
    have hP : ¬ P := by
      intro hP
      cases (hx fault).2 ⟨hP, rfl⟩
    rw [or_iff_right hP]
    exact hf a e

lemma pure_eq_error_iff (b : β) (fault e : Fault) :
    (pure b : Except Fault β) = .error e ↔ False ∧ e = fault := by
  constructor
  · intro h
    cases h
  · exact fun h => h.1.elim

/-- A pass over a list whose steps refuse for one fault only refuses for it if some step does. -/
lemma mapM_eq_error_iff {f : α → Except Fault β} {IsBad : α → Prop} {fault : Fault} {l : List α}
    (hf : ∀ a ∈ l, ∀ e, f a = .error e ↔ IsBad a ∧ e = fault) {e : Fault} :
    l.mapM f = .error e ↔ (∃ a ∈ l, IsBad a) ∧ e = fault := by
  induction l generalizing e with
  | nil =>
    rw [List.mapM_nil, pure_eq_error_iff _ fault]
    simp
  | cons a l ih =>
    have hrest (e : Fault) : l.mapM f = .error e ↔ (∃ a ∈ l, IsBad a) ∧ e = fault :=
      ih fun b hb => hf b (List.mem_cons_of_mem a hb)
    rw [List.mapM_cons, bind_eq_error_iff_or (hf a List.mem_cons_self) fun b e =>
      bind_eq_error_iff_or hrest fun bs e => pure_eq_error_iff _ fault e, or_false,
      List.exists_mem_cons_iff]

end PipeTable
