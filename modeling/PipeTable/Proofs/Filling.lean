import PipeTable.Filling
import PipeTable.Proofs.Text.Composed

/-!
# Filling a width

A text that is filled to a width has spaces before it and behind it, as many as the width leaves
free, and the side says how they are shared out (`Side.Splits`).  Spaces are characters, and the
width is counted in columns.  That the two agree is a fact about the measure: it takes spaces around
a text apart from the text (`Measure.width_between_spaces`), also where it composes the text first,
because spaces never compose with anything.  So if a space takes one column, then as many columns
are filled as spaces are added.

The main statement, `Measure.align_fills_width`, puts the two together.  A filled text leaves
nothing free, and so it is kept when it is aligned once more, to whatever side.
-/

namespace PipeTable

open Text

/-! ## Spaces around a text -/

/-- How the spaces around a text may be shared out between its left and its right: all on one side,
or half and half with the odd one on the right. -/
def Side.Splits (l r : Nat) : Side → Prop
  | .left => l = 0
  | .right => r = 0
  | .center => l ≤ r ∧ r ≤ l + 1

/-- A filled text is the text between spaces that its side shares out. -/
lemma Side.exists_fill (space : Nat) (t : Text) (side : Side) :
    ∃ l r, side.fill space t = List.replicate l ' ' ++ t ++ List.replicate r ' ' ∧
      l + r = space ∧ side.Splits l r := by
  cases side with
  | left => exact ⟨0, space, by simp [fill], Nat.zero_add space, rfl⟩
  | right => exact ⟨space, 0, by simp [fill], rfl, rfl⟩
  | center =>
    refine ⟨space / 2, space - space / 2, rfl, by omega, ?_⟩
    dsimp only [Splits]
    omega

namespace Measure

variable {m : Measure}

lemma measured_between_spaces (m : Measure) (l r : Nat) (t : Text) :
    m.measured (List.replicate l ' ' ++ t ++ List.replicate r ' ') =
      List.replicate l ' ' ++ m.measured t ++ List.replicate r ' ' := by
  unfold measured
  split
  · exact composed_between_spaces l r t
  · rfl

lemma charsWidth_replicate (m : Measure) (n : Nat) (c : Char) :
    m.charsWidth (List.replicate n c) = n * m.charWidth c := by
  induction n with
  | zero => simp [charsWidth]
  | succ n ih => rw [List.replicate_succ, charsWidth, ih, Nat.succ_mul, Nat.add_comm]

/-- Spaces around a text take their own columns, whether or not the text is composed. -/
lemma width_between_spaces (m : Measure) (l r : Nat) (t : Text) :
    m.width (List.replicate l ' ' ++ t ++ List.replicate r ' ') =
      m.width t + (l + r) * m.charWidth ' ' := by
  rw [Measure.width, measured_between_spaces, charsWidth_append, charsWidth_append,
    charsWidth_replicate, charsWidth_replicate, ← Measure.width, Nat.add_mul]
  omega

lemma width_nil (m : Measure) : m.width [] = 0 := by
  have hmeasured : m.measured [] = [] := by
    unfold measured
    split
    · exact composed_nil
    · rfl
  rw [Measure.width, hmeasured, charsWidth]

lemma width_space (m : Measure) : m.width [' '] = m.charWidth ' ' := by
  have h := m.width_between_spaces 1 0 []
  rw [width_nil, Nat.zero_add, Nat.add_zero, Nat.one_mul] at h
  exact h

/-! ## Filling -/

/-- A filled text takes the width it was filled to, or its own where that is greater. -/
lemma width_fill_eq (hspace : m.width [' '] = 1) (t : Text) (width : Int) (side : Side) :
    (m.width (m.fill t width side) : Int) = max width (m.width t) := by
  obtain ⟨l, r, hfill, hsum, -⟩ := side.exists_fill (m.freeSpace t width) t
  have hwidth : m.width (m.fill t width side) = m.width t + m.freeSpace t width := by
    rw [fill, hfill, width_between_spaces, ← width_space, hspace, hsum, Nat.mul_one]
  rw [hwidth, freeSpace]
  omega

lemma align_eq_fill {v : Value} {side : Side} (hv : v.toAlignment = .ok (.to side)) (m : Measure)
    (t : Text) (width : Int) : m.align t width v = .ok (m.fill t width side) := by
  have hside : v.toSide = .ok side := by
    unfold Value.toAlignment at hv
    unfold Value.toSide
    cases ha : v.alignment? with
    | none => simp [ha] at hv
    | some a =>
      obtain rfl : a = .to side := by simpa [ha] using hv
      rfl
  rw [align, hside]
  rfl

/-- A value that names a side puts as many spaces around a text as the width leaves free, where the
side wants them.  If a space takes one column, the text then takes the whole width, and no side adds
anything to it.  Texts that are composed before they are measured are no exception. -/
theorem align_fills_width (m : Measure) (t : Text) (width : Int) {v : Value} {side : Side}
    (hv : v.toAlignment = .ok (.to side)) :
    ∃ u, m.align t width v = .ok u ∧
      (∃ l r : Nat, u = List.replicate l ' ' ++ t ++ List.replicate r ' ' ∧
        ((l + r : Nat) : Int) = max 0 (width - m.width t) ∧ side.Splits l r) ∧
      (m.width [' '] = 1 →
        (m.width u : Int) = max width (m.width t) ∧
        ∀ (w : Value) (other : Side), w.toAlignment = .ok (.to other) →
          m.align u width w = .ok u) := by
  refine ⟨m.fill t width side, align_eq_fill hv m t width, ?_, fun hspace => ?_⟩
  · obtain ⟨l, r, hfill, hsum, hsplits⟩ := side.exists_fill (m.freeSpace t width) t
    refine ⟨l, r, hfill, ?_, hsplits⟩
    rw [hsum, freeSpace]
    omega
  · have hwidth := width_fill_eq hspace t width side
    refine ⟨hwidth, fun w other hw => ?_⟩
    have hfull : width ≤ m.width (m.fill t width side) := by omega
    rw [align_eq_fill hw, fill_of_width_le hfull]

/-- An accent that is composed into its letter takes no column, so three spaces are added around the
two characters.  With them the text is four columns wide and is kept at any other side. -/
theorem align_fills_width_accented :
    ∃ m : Measure, m.composes ∧ m.width [' '] = 1 ∧
      m.align "e\u0301".toList 4 (.text "center".toList) = .ok " e\u0301  ".toList ∧
      m.width " e\u0301  ".toList = 4 ∧
      m.align " e\u0301  ".toList 4 (.text "right".toList) = .ok " e\u0301  ".toList := by
  let m : Measure := ⟨.bool true, .bool false, .empty, .empty⟩
  have hspace : m.width [' '] = 1 := by decide +kernel
  have hletter : m.width "e\u0301".toList = 1 := by decide +kernel
  have hcenter : (Value.text "center".toList).toAlignment = .ok (.to .center) := rfl
  have hright : (Value.text "right".toList).toAlignment = .ok (.to .right) := rfl
  obtain ⟨u, hu, ⟨l, r, rfl, hsum, hle, hodd⟩, hfills⟩ :=
    align_fills_width m "e\u0301".toList 4 hcenter
  obtain ⟨hwidth, hagain⟩ := hfills hspace
  rw [hletter] at hsum hwidth
  obtain ⟨rfl, rfl⟩ : l = 1 ∧ r = 2 := by omega
  refine ⟨m, rfl, hspace, hu, ?_, hagain _ .right hright⟩
  exact Int.ofNat_inj.1 hwidth

end Measure

end PipeTable
