import PipeTable.Cell
import PipeTable.Proofs.Segment.Intact

/-!
# Delimiter cells that are written and read

A bar of at least one dash says, when it is read, what it was written for
(`ofText?_trim_delimiterText`).  A bar without dashes is no delimiter cell at all, so that what it
leaves of an alignment is the unset one; that is why only `alignment_bar` holds for every number of
dashes.
-/

namespace PipeTable

open Segment Text

/-- The text of a bar without the spaces where it has no colon. -/
def barText (a : Alignment) (dashes : Nat) : Text :=
  (if a.colonBefore then [':'] else []) ++ List.replicate dashes '-' ++
    (if a.colonAfter then [':'] else [])

lemma mem_barText {a : Alignment} {dashes : Nat} {c : Char} (h : c ∈ barText a dashes) :
    c = ':' ∨ c = '-' := by
  simp only [barText, List.mem_append, List.mem_replicate] at h
  rcases h with (h | h) | h
  · split at h
    · exact .inl (List.mem_singleton.1 h)
    · exact absurd h List.not_mem_nil
  · exact .inr h.2
  · split at h
    · exact .inl (List.mem_singleton.1 h)
    · exact absurd h List.not_mem_nil

lemma trim_barText (a : Alignment) (dashes : Nat) : (barText a dashes).trim = barText a dashes := by
  refine trim_of_forall_not_blank ?_
  intro c hc
  rcases mem_barText hc with rfl | rfl <;> decide

/-- What is left of a delimiter cell when it is trimmed. -/
lemma trim_delimiterText (a : Alignment) (dashes : Int) :
    (delimiterText a dashes).trim = barText a dashes.toNat := by
  obtain ⟨l, r, hl, hr, h⟩ : ∃ l r, isBlank l ∧ isBlank r ∧
      delimiterText a dashes = l ++ barText a dashes.toNat ++ r := by
    refine ⟨if a.colonBefore then [] else [' '], if a.colonAfter then [] else [' '], ?_, ?_, ?_⟩
    · split <;> decide
    · split <;> decide
    · cases hb : a.colonBefore <;> cases ha : a.colonAfter <;>
        simp [delimiterText, barText, colonOrSpace, hb, ha]
  rw [h, trim_append_right hr, trim_append_left hl, trim_barText]

lemma isPlain_delimiterText (a : Alignment) (dashes : Int) : IsPlain (delimiterText a dashes) := by
  have hend (colon : Bool) : isMarkup (colonOrSpace colon) = false := by cases colon <;> decide
  intro c hc
  simp only [delimiterText, List.mem_cons, List.mem_append, List.mem_replicate, List.not_mem_nil,
    or_false] at hc
  rcases hc with rfl | ⟨-, rfl⟩ | rfl
  · exact hend _
  · decide
  · exact hend _

/-! ## Reading a bar -/

/-- The dashes and the last colon of a bar are read for what they are. -/
lemma ofBar?_replicate (before after : Bool) {dashes : Nat} (h : 0 < dashes) :
    Delimiter.ofBar? before (List.replicate dashes '-' ++ if after then [':'] else []) =
      some ⟨.ofColons before after, dashes⟩ := by
  have htake : (List.replicate dashes '-' ++ if after then [':'] else []).takeWhile (· == '-') =
      List.replicate dashes '-' := by
    rw [List.takeWhile_append_of_pos (by simp)]
    cases after <;> simp
  have hdrop : (List.replicate dashes '-' ++ if after then [':'] else []).dropWhile (· == '-') =
      if after then [':'] else [] := by
    rw [List.dropWhile_append_of_pos (by simp)]
    cases after <;> simp
  have hne : ¬ dashes = 0 := by omega
  simp only [Delimiter.ofBar?, htake, hdrop, List.length_replicate, hne, if_false]
  cases after <;> rfl

lemma ofText?_barText (a : Alignment) {dashes : Nat} (h : 0 < dashes) :
    Delimiter.ofText? (barText a dashes) = some ⟨a, dashes⟩ := by
  have hbar := ofBar?_replicate a.colonBefore a.colonAfter h
  rw [Alignment.ofColons_colons] at hbar
  cases hb : a.colonBefore with
  | true =>
    rw [hb] at hbar
    simp only [barText, hb, if_true, List.cons_append]
    exact hbar
  | false =>
    rw [hb] at hbar
    obtain ⟨n, rfl⟩ : ∃ n, dashes = n + 1 := ⟨dashes - 1, by omega⟩
    simp only [barText, hb, Bool.false_eq_true, if_false, List.nil_append]
    rw [List.replicate_succ, List.cons_append] at hbar ⊢
    -- the bar begins with a dash and not with a colon
    exact hbar

lemma ofText?_trim_delimiterText (a : Alignment) {dashes : Int} (h : 1 ≤ dashes) :
    Delimiter.ofText? (delimiterText a dashes).trim = some ⟨a, dashes.toNat⟩ := by
  rw [trim_delimiterText]
  exact ofText?_barText a (by omega)

namespace Cell

lemma alignment?_mk_delimiterText (a : Alignment) {dashes : Int} (h : 1 ≤ dashes) :
    (Cell.mk (delimiterText a dashes)).alignment? = some a := by
  simp [alignment?, delimiter?, content, ofText?_trim_delimiterText a h]

lemma isDelimiter_mk_delimiterText (a : Alignment) {dashes : Int} (h : 1 ≤ dashes) :
    (Cell.mk (delimiterText a dashes)).isDelimiter := by
  simp [isDelimiter, delimiter?, content, ofText?_trim_delimiterText a h]

/-- A bar without dashes is no delimiter cell, with colons or without. -/
lemma isDelimiter_mk_delimiterText_iff (a : Alignment) {dashes : Int} :
    (Cell.mk (delimiterText a dashes)).isDelimiter ↔ 1 ≤ dashes := by
  refine ⟨fun h => ?_, isDelimiter_mk_delimiterText a⟩
  by_contra hdashes
  have hzero : dashes.toNat = 0 := by omega
  have hnone : Delimiter.ofText? (barText a 0) = none := by
    rcases a with _ | side
    · rfl
    · cases side <;> rfl
  rw [isDelimiter, delimiter?, content, trim_delimiterText, hzero, hnone] at h
  cases h

lemma alignment_mk_delimiterText (a : Alignment) {dashes : Int} (h : 1 ≤ dashes) :
    (Cell.mk (delimiterText a dashes)).alignment = a := by
  rw [alignment, alignment?_mk_delimiterText a h, Option.getD_some]

/-- A bar that declares nothing leaves the alignment unset, with dashes or without. -/
@[simp] lemma alignment_bar (dashes : Int) : (Cell.bar dashes).alignment = .unset := by
  by_cases h : 1 ≤ dashes
  · exact alignment_mk_delimiterText .unset h
  · have hzero : dashes.toNat = 0 := by omega
    have hcontent : (Cell.bar dashes).content = [] := by
      rw [bar, content, trim_delimiterText, hzero]
      rfl
    simp [alignment, alignment?, delimiter?, hcontent, Delimiter.ofText?, Delimiter.ofBar?]

end Cell

end PipeTable
