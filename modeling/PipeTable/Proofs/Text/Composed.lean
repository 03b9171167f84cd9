import Mathlib.Data.List.Basic
import PipeTable.Text.Canonical.Composed

/-!
# The composed form of a text with spaces around it

Composition looks at characters together, so a text and its parts need not be composed alike: a
mark at the start of a part may join the letter in front of it.  A character that stands apart
(`Canonical.StandsApart`) keeps what is on its two sides from reaching each other.  It decomposes
into itself, it is a starter, which no mark is moved across, and it composes with nothing on either
side.  So each of the three steps works on the text before it and on the text after it separately
(`decomposed_append`, `ordered_append_cons`, `composeStarters_append_cons`), and with them the
composed form does (`StandsApart.composed_append_cons`).

The space is such a character, by what the tables list.  Spaces in front of a text or behind it are
therefore spaces around its composed form (`Text.composed_between_spaces`).
-/

namespace PipeTable

namespace Canonical

/-- A character that neither a mark nor a letter beside it has any effect on, and that has none on
them. -/
structure StandsApart (c : Char) : Prop where
  unfoldChar_eq : unfoldChar c = [c]
  starter : isStarter c
  join?_left : ∀ d, join? c d = none
  join?_right : ∀ d, join? d c = none

variable {c : Char}

/-! ## Decomposition -/

/-- Characters are decomposed one by one. -/
lemma decomposed_append (t u : Text) : decomposed (t ++ u) = decomposed t ++ decomposed u := by
  simp only [decomposed, List.flatMap_append]

lemma StandsApart.decomposed_singleton (h : StandsApart c) : decomposed [c] = [c] := by
  simp only [decomposed, List.flatMap_singleton, h.unfoldChar_eq]

lemma StandsApart.decomposed_append_cons (h : StandsApart c) (t u : Text) :
    decomposed (t ++ c :: u) = decomposed t ++ c :: decomposed u := by
  rw [decomposed_append, ← List.singleton_append, decomposed_append, h.decomposed_singleton,
    List.singleton_append]

/-! ## Order of marks -/

lemma combiningClass_of_isStarter (h : isStarter c) : combiningClass c = 0 := by
  simpa [isStarter] using h

/-- A starter is not put behind anything. -/
lemma settle_of_isStarter (h : isStarter c) (t : Text) : settle c t = c :: t := by
  cases t with
  | nil => rfl
  | cons d t => simp [settle, combiningClass_of_isStarter h]

/-- No character is put behind a starter. -/
lemma settle_append_cons (h : isStarter c) (d : Char) (t u : Text) :
    settle d (t ++ c :: u) = settle d t ++ c :: u := by
  induction t with
  | nil => simp [settle, combiningClass_of_isStarter h]
  | cons e t ih =>
    simp only [List.cons_append, settle, ih]
    split <;> rfl

/-- The marks before a starter and those behind it are put in order separately. -/
lemma ordered_append_cons (h : isStarter c) (t u : Text) :
    ordered (t ++ c :: u) = ordered t ++ c :: ordered u := by
  induction t with
  | nil => exact settle_of_isStarter h (ordered u)
  | cons d t ih =>
    show settle d (ordered (t ++ c :: u)) = settle d (ordered t) ++ c :: ordered u
    rw [ih, settle_append_cons h]

/-! ## Composition -/

/-- As a starter, a character that stands apart takes in nothing of the text behind it, which is
composed as if it stood alone. -/
lemma StandsApart.composeFrom_self (h : StandsApart c) (kept t : Text) :
    composeFrom c kept t = c :: (kept ++ composeStarters t) := by
  induction t generalizing kept with
  | nil => simp [composeFrom, composeStarters]
  | cons d t ih =>
    by_cases hd : isStarter d
    · simp [composeFrom, composeStarters, h.join?_left, hd]
    · -- a mark does not reach it either, and is kept behind those that were passed before
      simp [composeFrom, composeStarters, h.join?_left, hd, ih]

/-- A starter is composed with nothing from a character that stands apart on. -/
lemma StandsApart.composeFrom_append_cons (h : StandsApart c) (first : Char) (kept t u : Text) :
    composeFrom first kept (t ++ c :: u) =
      composeFrom first kept t ++ c :: composeStarters u := by
  induction t generalizing first kept with
  | nil => simp [composeFrom, h.join?_right, h.starter, h.composeFrom_self]
  | cons d t ih =>
    rw [List.cons_append, composeFrom, composeFrom]
    -- the same step is taken with and without the text behind
    cases (if isCutOff kept d then none else join? first d) with
    | some joined => exact ih joined kept
    | none =>
      by_cases hd : isStarter d
      · simp only [hd, if_true, ih, List.append_assoc]
      · simp only [hd, if_false, ih, Bool.false_eq_true]

lemma StandsApart.composeStarters_append_cons (h : StandsApart c) (t u : Text) :
    composeStarters (t ++ c :: u) = composeStarters t ++ c :: composeStarters u := by
  induction t with
  | nil => simp [composeStarters, h.starter, h.composeFrom_self]
  | cons d t ih =>
    by_cases hd : isStarter d
    · simp only [List.cons_append, composeStarters, hd, if_true, h.composeFrom_append_cons]
    · simp only [List.cons_append, composeStarters, hd, ih, if_false, Bool.false_eq_true]

/-- What is before a character that stands apart and what is behind it are composed separately. -/
theorem StandsApart.composed_append_cons (h : StandsApart c) (t u : Text) :
    Text.composed (t ++ c :: u) = Text.composed t ++ c :: Text.composed u := by
  rw [Text.composed, h.decomposed_append_cons, ordered_append_cons h.starter,
    h.composeStarters_append_cons]
  rfl

/-! ## The space -/

/-- No composing pair has the space as its base. -/
lemma lookup_space_of_mem_composingPairs :
    ∀ entry ∈ composingPairs, entry.2.lookup ' '.toNat = none := by
  decide +kernel

lemma join?_space_left (d : Char) : join? ' ' d = none := by
  have hpair : composedPair? ' ' d = none := by
    rw [composedPair?]
    cases hentries : composingPairs.lookup d.toNat with
    | none => rfl
    | some entries =>
      obtain ⟨front, back, hsplit, -⟩ := List.lookup_eq_some_iff.1 hentries
      have hmem : (d.toNat, entries) ∈ composingPairs := by simp [hsplit]
      exact congrArg (Option.map Char.ofNat) (lookup_space_of_mem_composingPairs _ hmem)
  have hsyllable : Hangul.syllable? ' ' d = none := by
    simp [Hangul.syllable?, Hangul.leadBase, Hangul.syllableBase]
  rw [join?, hpair, hsyllable]
  rfl

lemma join?_space_right (d : Char) : join? d ' ' = none := by
  have hpair : composedPair? d ' ' = none := by
    have hlookup : composingPairs.lookup ' '.toNat = none := by decide +kernel
    rw [composedPair?, hlookup]
  have hsyllable : Hangul.syllable? d ' ' = none := by
    simp [Hangul.syllable?, Hangul.vowelBase, Hangul.trailBase]
  rw [join?, hpair, hsyllable]
  rfl

lemma standsApart_space : StandsApart ' ' where
  unfoldChar_eq := by decide +kernel
  starter := by decide +kernel
  join?_left := join?_space_left
  join?_right := join?_space_right

end Canonical

namespace Text

open Canonical

lemma composed_nil : composed [] = [] := rfl

lemma composed_spaces_append (n : Nat) (t : Text) :
    composed (List.replicate n ' ' ++ t) = List.replicate n ' ' ++ composed t := by
  induction n with
  | zero => rfl
  | succ n ih =>
    have hfirst := standsApart_space.composed_append_cons [] (List.replicate n ' ' ++ t)
    rw [List.replicate_succ, List.cons_append, List.cons_append, ← ih]
    exact hfirst

lemma composed_append_spaces (t : Text) (n : Nat) :
    composed (t ++ List.replicate n ' ') = composed t ++ List.replicate n ' ' := by
  cases n with
  | zero => simp
  | succ n =>
    have hspaces : composed (List.replicate n ' ') = List.replicate n ' ' := by
      have h := composed_spaces_append n []
      rwa [composed_nil, List.append_nil] at h
    rw [List.replicate_succ, standsApart_space.composed_append_cons, hspaces]

/-- The composed form of a text between spaces is its own composed form between them. -/
theorem composed_between_spaces (l r : Nat) (t : Text) :
    composed (List.replicate l ' ' ++ t ++ List.replicate r ' ') =
      List.replicate l ' ' ++ composed t ++ List.replicate r ' ' := by
  rw [composed_append_spaces, composed_spaces_append]

end Text

end PipeTable
