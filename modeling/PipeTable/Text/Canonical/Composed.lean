import PipeTable.Text.Canonical.Class
import PipeTable.Text.Canonical.Hangul
import PipeTable.Text.Canonical.Mapping

/-!
# Composed form

Two texts that are canonically equivalent, such as a letter with an accent and the letter followed
by the accent as a mark of its own, have one composed form (Unicode calls it normalisation form C).
It is reached in three steps: every character is decomposed as far as it goes, the marks after
each starter are put into the order of their combining classes, and each starter is then composed
with the marks that reach it.
-/

namespace PipeTable

namespace Canonical

/-! ## Decomposition -/

/-- What a character stands for in one step, itself if it does not decompose. -/
def unfoldChar (c : Char) : Text :=
  ((Hangul.letters? c).or (mapping? c)).getD [c]

/-- The text with every character fully decomposed. No chain of mappings is longer than three. -/
def decomposed (t : Text) : Text :=
  ((t.flatMap unfoldChar).flatMap unfoldChar).flatMap unfoldChar

/-! ## Order of marks -/

/-- Puts a character in front of a text whose marks are in order, behind the marks of lower
classes. Starters stay where they are, and so do marks of equal classes. -/
def settle (c : Char) : Text → Text
  | [] => [c]
  | d :: rest =>
    if 0 < combiningClass d && combiningClass d < combiningClass c then d :: settle c rest
    else c :: d :: rest

/-- The text with the marks after each starter in the order of their classes. -/
def ordered (t : Text) : Text := t.foldr settle []

/-- Ordering moves characters and keeps each of them. -/
theorem settle_perm (c : Char) (t : Text) : (settle c t).Perm (c :: t) := by
  induction t with
  | nil => exact .refl _
  | cons d rest ih =>
    unfold settle
    split
    · exact (ih.cons d).trans (.swap c d rest)
    · exact .refl _

/-- An ordered text is a rearrangement of the text. -/
theorem ordered_perm (t : Text) : (ordered t).Perm t := by
  induction t with
  | nil => exact .refl _
  | cons c rest ih => exact (settle_perm c (ordered rest)).trans (ih.cons c)

/-! ## Composition -/

/-- What two adjacent characters compose to, if they do. -/
def join? (first second : Char) : Option Char :=
  (Hangul.syllable? first second).or (composedPair? first second)

/-- Whether a character cannot reach the starter across the marks kept between them: the last of
the marks, which is one of the highest class, is not of a lower class than the character. -/
def isCutOff (kept : Text) (c : Char) : Bool :=
  kept.getLast?.any fun d => combiningClass c ≤ combiningClass d

/-- Composes a starter with the text after it. The marks that were passed and did not compose are
kept, and follow the starter when the next one takes its place. -/
def composeFrom (starter : Char) (kept : Text) : Text → Text
  | [] => starter :: kept
  | c :: rest =>
    match if isCutOff kept c then none else join? starter c with
    | some joined => composeFrom joined kept rest
    | none =>
      if isStarter c then starter :: kept ++ composeFrom c [] rest
      else composeFrom starter (kept ++ [c]) rest

/-- Composes every starter of a decomposed and ordered text. -/
def composeStarters : Text → Text
  | [] => []
  | c :: rest => if isStarter c then composeFrom c [] rest else c :: composeStarters rest

end Canonical

/-- The composed form of a text. -/
def Text.composed (t : Text) : Text :=
  Canonical.composeStarters (Canonical.ordered (Canonical.decomposed t))

end PipeTable
