import PipeTable.Cell
import PipeTable.Proofs.Text.Trimming

/-!
# The padding of cells

A cell with content is its content between two blank texts, and these are as long as its paddings
say (`Cell.exists_padding`).  The paddings of a blank cell are a convention and not what trimming
takes off, which is why the content is asked for.  By that convention too, the paddings and the
content add up to the cell (`Cell.length_raw`).

Offsets go from the raw text to the content and back.  One way nothing is lost
(`Cell.contentOffset_rawOffset`); the other way an offset in the padding comes back as the end of
the content that it is nearer to (`Cell.rawOffset_contentOffset`).  The main statement,
`Cell.paddings_and_offsets_agree`, collects these laws.
-/

namespace PipeTable.Cell

open Text

/-- A cell with content is that content with as many blanks around it as the paddings count. -/
lemma exists_padding {c : Cell} (h : c.content ≠ []) :
    ∃ l r : Text, isBlank l ∧ isBlank r ∧ l.length = c.paddingLeft ∧
      r.length = c.paddingRight ∧ c.raw = l ++ c.content ++ r := by
  obtain ⟨r, hr, hstart⟩ := exists_trimEnd c.raw.trimStart
  have hsplit := takeWhile_append_trimStart c.raw
  have hraw : c.raw = c.raw.takeWhile isBlankChar ++ c.content ++ r := by
    rw [content, trim, List.append_assoc, ← hstart, hsplit]
  have hleft : (c.raw.takeWhile isBlankChar).length = c.paddingLeft := by
    have hlength := congrArg List.length hsplit
    rw [List.length_append] at hlength
    rw [paddingLeft, if_neg h]
    omega
  refine ⟨_, r, ?_, hr, hleft, ?_, hraw⟩
  · exact isBlank_iff.2 fun x hx => List.mem_takeWhile_imp hx
  · have hlength := congrArg List.length hraw
    rw [List.length_append, List.length_append, hleft] at hlength
    rw [paddingRight]
    omega

/-- The paddings and the content make up the cell.  The right padding is a difference, and so this
also says that nothing was cut off at zero in it. -/
lemma length_raw (c : Cell) :
    c.paddingLeft + c.content.length + c.paddingRight = c.raw.length := by
  by_cases h : c.content = []
  · have hleft : c.paddingLeft = min 1 c.raw.length := by rw [paddingLeft, if_pos h]
    rw [paddingRight, hleft, h, List.length_nil]
    omega
  · obtain ⟨l, r, -, -, hleft, hright, hraw⟩ := exists_padding h
    rw [← hleft, ← hright, hraw, List.length_append, List.length_append]

/-! ## Offsets -/

lemma contentOffset_mono (c : Cell) {r s : Int} (h : r ≤ s) :
    c.contentOffset r ≤ c.contentOffset s := by
  unfold contentOffset
  omega

/-- An offset in the content comes back from the raw text as it was. -/
lemma contentOffset_rawOffset {c : Cell} {k : Nat} (hk : k ≤ c.content.length) :
    c.contentOffset (c.rawOffset k) = k := by
  unfold contentOffset rawOffset
  omega

/-- An offset in the raw text comes back from the content clamped to where the content stands. -/
lemma rawOffset_contentOffset (c : Cell) (r : Int) :
    c.rawOffset (c.contentOffset r) =
      max (c.paddingLeft : Int) (min r (c.paddingLeft + c.content.length)) := by
  unfold contentOffset rawOffset
  omega

/-- The paddings and the content of a cell add up to its raw text, so that neither padding is a
negative number of characters, and where there is content they are found in it one after the other.
Offsets go to the content in order and stay within it.  Those of the content come back from the raw
text as they were, and those of the raw text come back from the content clamped to where it stands.
-/
theorem paddings_and_offsets_agree (c : Cell) :
    c.paddingLeft + c.content.length + c.paddingRight = c.raw.length ∧
    (c.content ≠ [] → ∃ l r : Text, isBlank l ∧ isBlank r ∧ l.length = c.paddingLeft ∧
      r.length = c.paddingRight ∧ c.raw = l ++ c.content ++ r) ∧
    (∀ r s : Int, r ≤ s → c.contentOffset r ≤ c.contentOffset s) ∧
    (∀ r : Int, c.contentOffset r ≤ c.content.length) ∧
    (∀ k ≤ c.content.length, c.contentOffset (c.rawOffset k) = k) ∧
    ∀ r : Int, c.rawOffset (c.contentOffset r) =
      max (c.paddingLeft : Int) (min r (c.paddingLeft + c.content.length)) :=
  ⟨c.length_raw, exists_padding, fun _ _ => c.contentOffset_mono, c.contentOffset_le,
    fun _ => contentOffset_rawOffset, c.rawOffset_contentOffset⟩

/-- A wide blank and a tab before the content, and a space behind it: an offset before the cell comes
back at the start of the content, and one behind the cell at its end. -/
theorem paddings_and_offsets_agree_wide :
    ∃ (c : Cell) (l r : Text), isBlank l ∧ isBlank r ∧ l.length = 2 ∧ r.length = 1 ∧
      c.raw = l ++ "a b".toList ++ r ∧ c.contentOffset (c.rawOffset 3) = 3 ∧
      c.rawOffset (c.contentOffset (-4)) = 2 ∧ c.rawOffset (c.contentOffset 9) = 5 := by
  let c : Cell := ⟨"\u3000\ta b ".toList⟩
  obtain ⟨-, hsplit, -, -, hcontent, hraw⟩ := paddings_and_offsets_agree c
  have hne : c.content ≠ [] := by decide
  obtain ⟨l, r, hl, hr, hleft, hright, hc⟩ := hsplit hne
  exact ⟨c, l, r, hl, hr, hleft, hright, hc, hcontent 3 (by decide), hraw (-4), hraw 9⟩

end PipeTable.Cell
