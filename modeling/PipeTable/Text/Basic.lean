/-!
# Texts

A text is the list of its code points. Every length, offset and column of the library counts code
points, so that slices, prefixes and lengths of texts are those of lists.

Properties of characters that a standard lists are kept as ranges of code points that follow one
another (`CharRanges`). The only question asked of such a list is whether a character falls into one
of its ranges, and the search for an answer ends at the first range behind the character.

The first of these properties is being blank. The blank characters are those that Unicode counts as
space, tab, line break or information separator: cells are padded with them, margins consist of
them, and the content of a cell is what is left when they are trimmed off both ends.

The main statements are `CharRanges.contains_iff`, which says that the search misses no range,
`Text.trimStart_of_head`, which says that only blanks are ever trimmed, and
`Text.takeWhile_append_trimStart`, which says that nothing else is lost.
-/

namespace PipeTable

/-- A text, as the list of its code points. -/
abbrev Text := List Char

/-! ## Ranges of characters -/

/-- A range of code points, by its first and its last. -/
abbrev CharRange := Nat × Nat

/-- Whether ranges follow one another, the first of them from the least code point on. -/
def areInOrder : (least : Nat) → List CharRange → Bool
  | _, [] => true
  | least, (first, last) :: rest => least ≤ first && first ≤ last && areInOrder (last + 1) rest

/-- Ranges that follow one another begin at the least code point or behind it. -/
theorem le_of_areInOrder {ranges : List CharRange} {least : Nat} (h : areInOrder least ranges)
    {r : CharRange} (hr : r ∈ ranges) : least ≤ r.1 := by
  induction ranges generalizing least with
  | nil => cases hr
  | cons s rest ih =>
    simp only [areInOrder, Bool.and_eq_true, decide_eq_true_eq] at h
    obtain ⟨⟨hleast, hlast⟩, hrest⟩ := h
    rcases List.mem_cons.1 hr with rfl | hr
    · exact hleast
    · have := ih hrest hr
      omega

/-- Whether a code point lies in one of some ranges that follow one another. One that begins behind
the code point ends the search. -/
def isInRanges (n : Nat) : List CharRange → Bool
  | [] => false
  | (first, last) :: rest => first ≤ n && (n ≤ last || isInRanges n rest)

/-- Ending the search there misses no range. -/
theorem isInRanges_iff {ranges : List CharRange} {least : Nat} (h : areInOrder least ranges)
    (n : Nat) : isInRanges n ranges ↔ ∃ r ∈ ranges, r.1 ≤ n ∧ n ≤ r.2 := by
  induction ranges generalizing least with
  | nil => simp [isInRanges]
  | cons s rest ih =>
    simp only [areInOrder, Bool.and_eq_true, decide_eq_true_eq] at h
    obtain ⟨⟨-, hlast⟩, hrest⟩ := h
    simp only [isInRanges, Bool.and_eq_true, Bool.or_eq_true, decide_eq_true_eq, ih hrest,
      List.mem_cons, exists_eq_or_imp]
    constructor
    · rintro ⟨hfirst, hn | hr⟩
      · exact .inl ⟨hfirst, hn⟩
      · exact .inr hr
    · rintro (⟨hfirst, hn⟩ | ⟨r, hr, hn⟩)
      · exact ⟨hfirst, .inl hn⟩
      · have := le_of_areInOrder hrest hr
        exact ⟨by omega, .inr ⟨r, hr, hn⟩⟩

/-- A set of characters, as ranges that follow one another. -/
structure CharRanges where
  ranges : List CharRange
  inOrder : areInOrder 0 ranges := by decide +kernel

/-- Whether a character is one of the set. -/
def CharRanges.contains (s : CharRanges) (c : Char) : Bool := isInRanges c.toNat s.ranges

/-- The characters of the set are those of its ranges. -/
theorem CharRanges.contains_iff {s : CharRanges} {c : Char} :
    s.contains c ↔ ∃ r ∈ s.ranges, r.1 ≤ c.toNat ∧ c.toNat ≤ r.2 :=
  isInRanges_iff s.inOrder c.toNat

/-! ## Blank characters and trimming -/

/-- The ranges of blank characters. -/
def blankRanges : CharRanges where
  ranges := [
    (0x0009, 0x000D), (0x001C, 0x0020), (0x0085, 0x0085), (0x00A0, 0x00A0), (0x1680, 0x1680),
    (0x2000, 0x200A), (0x2028, 0x2029), (0x202F, 0x202F), (0x205F, 0x205F), (0x3000, 0x3000)]

/-- Whether a character is blank. -/
def isBlankChar (c : Char) : Bool := blankRanges.contains c

/-- The space, the tab and the ends of lines are blank. -/
theorem isBlankChar_of_isWhitespace {c : Char} (h : c.isWhitespace) : isBlankChar c := by
  simp only [Char.isWhitespace, Bool.or_eq_true, decide_eq_true_eq] at h
  rcases h with ((h | h) | h) | h <;> subst h <;> decide

namespace Text

/-- Whether a text holds blank characters only; the empty text does. -/
def isBlank (t : Text) : Bool := t.all isBlankChar

/-- The text without the blanks it begins with. -/
def trimStart (t : Text) : Text := t.dropWhile isBlankChar

/-- The text without the blanks it ends with. -/
def trimEnd (t : Text) : Text := (t.reverse.dropWhile isBlankChar).reverse

/-- The text without the blanks at either end. -/
def trim (t : Text) : Text := (trimStart t).trimEnd

/-- A text that begins with no blank keeps its beginning. -/
theorem trimStart_of_head {c : Char} (h : isBlankChar c = false) (t : Text) :
    trimStart (c :: t) = c :: t := by
  simp [trimStart, List.dropWhile, h]

/-- The blanks that are trimmed off the start and what is left make up the text. -/
theorem takeWhile_append_trimStart (t : Text) :
    t.takeWhile isBlankChar ++ t.trimStart = t :=
  List.takeWhile_append_dropWhile

end Text

end PipeTable
