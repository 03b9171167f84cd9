import PipeTable.Text.Basic

/-!
# Order of texts

Texts are ordered by the code points of their first difference, a text before its extensions. The
order is total, so a set of texts has exactly one increasing list.
-/

namespace PipeTable.Text

/-- Whether one text comes before another. -/
def precedes : Text → Text → Bool
  | _, [] => false
  | [], _ :: _ => true
  | c :: t, d :: u => c.toNat < d.toNat || (c == d && precedes t u)

/-- The order is transitive. -/
theorem precedes_trans {t u v : Text} (h₁ : t.precedes u) (h₂ : u.precedes v) : t.precedes v := by
  induction t generalizing u v with
  | nil =>
    cases u with
    | nil => simp [precedes] at h₁
    | cons d u => cases v <;> simp_all [precedes]
  | cons c t ih =>
    cases u with
    | nil => simp [precedes] at h₁
    | cons d u =>
      cases v with
      | nil => simp [precedes] at h₂
      | cons e v =>
        simp only [precedes, Bool.or_eq_true, decide_eq_true_eq, Bool.and_eq_true,
          beq_iff_eq] at h₁ h₂ ⊢
        rcases h₁ with h₁ | ⟨rfl, h₁⟩
        · rcases h₂ with h₂ | ⟨rfl, -⟩
          · exact .inl (Nat.lt_trans h₁ h₂)
          · exact .inl h₁
        · rcases h₂ with h₂ | ⟨rfl, h₂⟩
          · exact .inl h₂
          · exact .inr ⟨rfl, ih h₁ h₂⟩

/-- Of two different texts one comes before the other. -/
theorem precedes_of_ne {t u : Text} (h : t ≠ u) (hn : ¬ t.precedes u) : u.precedes t := by
  induction t generalizing u with
  | nil => cases u <;> simp_all [precedes]
  | cons c t ih =>
    cases u with
    | nil => simp [precedes]
    | cons d u =>
      simp only [precedes, Bool.or_eq_true, decide_eq_true_eq, Bool.and_eq_true, beq_iff_eq,
        not_or, not_and] at hn ⊢
      by_cases hcd : c = d
      · subst hcd
        exact .inr ⟨rfl, ih (fun e => h (e ▸ rfl)) (hn.2 rfl)⟩
      · have : c.toNat ≠ d.toNat := fun e => hcd (Char.toNat_inj.1 e)
        exact .inl (by omega)

end PipeTable.Text
