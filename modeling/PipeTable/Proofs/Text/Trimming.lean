import Mathlib.Data.List.TakeWhile
import PipeTable.Filling

/-!
# Laws of trimming

Formatting takes the content out of a cell and puts it back with other blanks around it.  Two facts
make that harmless: a text is its content between two blank texts (`exists_trim`), and blanks added
at either end leave the content alone (`trim_append_left`, `trim_append_right`).  That trimming
twice is trimming once follows from the two (`trim_trim`).
-/

namespace PipeTable.Text

/-! ## Blank texts -/

lemma isBlank_iff {t : Text} : t.isBlank ↔ ∀ c ∈ t, isBlankChar c := by
  simp [isBlank]

@[simp] lemma isBlank_append {t u : Text} : isBlank (t ++ u) = (isBlank t && isBlank u) := by
  simp [isBlank]

@[simp] lemma isBlank_replicate_space (n : Nat) : isBlank (List.replicate n ' ') := by
  rw [isBlank_iff]
  intro c hc
  rw [List.eq_of_mem_replicate hc]
  decide

/-! ## What trimming leaves -/

/-- The blanks taken off the end of a text and what is left make up the text. -/
lemma exists_trimEnd (t : Text) : ∃ r, isBlank r ∧ t = t.trimEnd ++ r := by
  refine ⟨(t.reverse.takeWhile isBlankChar).reverse, ?_, ?_⟩
  · rw [isBlank_iff]
    intro c hc
    exact List.mem_takeWhile_imp (List.mem_reverse.1 hc)
  · rw [trimEnd, ← List.reverse_append, List.takeWhile_append_dropWhile, List.reverse_reverse]

/-- A text is its content between two blank texts. -/
lemma exists_trim (t : Text) : ∃ l r, isBlank l ∧ isBlank r ∧ t = l ++ t.trim ++ r := by
  obtain ⟨r, hr, h⟩ := exists_trimEnd t.trimStart
  refine ⟨t.takeWhile isBlankChar, r, ?_, hr, ?_⟩
  · exact isBlank_iff.2 fun c hc => List.mem_takeWhile_imp hc
  · rw [trim, List.append_assoc, ← h, takeWhile_append_trimStart]

/-- Exactly the blank texts have no content. -/
lemma trim_eq_nil_iff {t : Text} : t.trim = [] ↔ isBlank t := by
  constructor
  · intro h
    obtain ⟨l, r, hl, hr, ht⟩ := exists_trim t
    rw [ht, h]
    simp [hl, hr]
  · intro h
    have hstart : t.trimStart = [] := List.dropWhile_eq_nil_iff.2 (isBlank_iff.1 h)
    rw [trim, hstart]
    rfl

/-! ## Blanks at the ends -/

lemma trimEnd_append_right {r : Text} (hr : isBlank r) (t : Text) :
    trimEnd (t ++ r) = trimEnd t := by
  rw [trimEnd, List.reverse_append, List.dropWhile_append_of_pos, ← trimEnd]
  intro c hc
  exact isBlank_iff.1 hr c (List.mem_reverse.1 hc)

/-- Blanks in front of a text do not change its content. -/
lemma trim_append_left {l : Text} (hl : isBlank l) (t : Text) : trim (l ++ t) = trim t := by
  have hstart : trimStart (l ++ t) = trimStart t :=
    List.dropWhile_append_of_pos (isBlank_iff.1 hl)
  rw [trim, hstart, ← trim]

/-- Blanks behind a text do not change its content. -/
lemma trim_append_right {r : Text} (hr : isBlank r) (t : Text) : trim (t ++ r) = trim t := by
  by_cases ht : isBlank t
  · rw [trim_eq_nil_iff.2 ht, trim_eq_nil_iff]
    simp [ht, hr]
  · -- the first character that is not blank stands in `t`, so the start of `t` is what is trimmed
    have hne : (t.dropWhile isBlankChar).isEmpty = false := by
      by_contra h
      have hnil : t.dropWhile isBlankChar = [] := by simpa using h
      exact ht (isBlank_iff.2 (List.dropWhile_eq_nil_iff.1 hnil))
    have hstart : trimStart (t ++ r) = trimStart t ++ r := by
      rw [trimStart, List.dropWhile_append, hne]
      rfl
    rw [trim, hstart, trimEnd_append_right hr, ← trim]

/-- The content of a text is trimmed already. -/
@[simp] lemma trim_trim (t : Text) : t.trim.trim = t.trim := by
  obtain ⟨l, r, hl, hr, ht⟩ := exists_trim t
  have h : trim (l ++ t.trim ++ r) = t.trim.trim := by
    rw [trim_append_right hr, trim_append_left hl]
  rw [← h, ← ht]

/-- Nothing is trimmed off a text without blanks. -/
lemma trim_of_forall_not_blank {t : Text} (h : ∀ c ∈ t, isBlankChar c = false) : t.trim = t := by
  obtain ⟨l, r, hl, hr, ht⟩ := exists_trim t
  have hnil {u : Text} (hu : isBlank u) (hsub : ∀ c ∈ u, c ∈ t) : u = [] := by
    rw [List.eq_nil_iff_forall_not_mem]
    intro c hc
    have hblank := isBlank_iff.1 hu c hc
    rw [h c (hsub c hc)] at hblank
    cases hblank
  have hlnil : l = [] := hnil hl fun c hc => by rw [ht]; simp [hc]
  have hrnil : r = [] := hnil hr fun c hc => by rw [ht]; simp [hc]
  rw [hlnil, hrnil, List.nil_append, List.append_nil] at ht
  exact ht.symm

/-! ## Texts with other blanks around their content -/

/-- The second text is the content of the first one with blanks around it, at least one at either
end. -/
def Repads (t u : Text) : Prop :=
  ∃ l r : Text, isBlank l ∧ isBlank r ∧ l ≠ [] ∧ r ≠ [] ∧ u = l ++ t.trim ++ r

namespace Repads

lemma trim_eq {t u : Text} (h : Repads t u) : u.trim = t.trim := by
  obtain ⟨l, r, hl, hr, -, -, rfl⟩ := h
  rw [trim_append_right hr, trim_append_left hl, trim_trim]

lemma ne_nil {t u : Text} (h : Repads t u) : u ≠ [] := by
  obtain ⟨l, r, -, -, hl, -, rfl⟩ := h
  simp [hl]

/-- Filling a content at any side and padding it. -/
lemma padded_fill (space : Nat) (side : Side) (t : Text) :
    Repads t (padded (side.fill space t.trim)) := by
  cases side with
  | left =>
    refine ⟨[' '], List.replicate space ' ' ++ [' '], by decide, ?_, by simp, by simp, ?_⟩
    · simp only [isBlank_append, isBlank_replicate_space]
      decide
    · simp [padded, Side.fill]
  | right =>
    refine ⟨' ' :: List.replicate space ' ', [' '], ?_, by decide, by simp, by simp, ?_⟩
    · exact isBlank_replicate_space (space + 1)
    · simp [padded, Side.fill]
  | center =>
    refine ⟨' ' :: List.replicate (space / 2) ' ',
      List.replicate (space - space / 2) ' ' ++ [' '], ?_, ?_, by simp, by simp, ?_⟩
    · exact isBlank_replicate_space (space / 2 + 1)
    · simp only [isBlank_append, isBlank_replicate_space]
      decide
    · simp [padded, Side.fill]

/-- Padding a content with one blank at either end. -/
lemma padded (t : Text) : Repads t (PipeTable.padded t.trim) :=
  ⟨[' '], [' '], by decide, by decide, by simp, by simp, by simp [PipeTable.padded]⟩

end Repads

end PipeTable.Text
