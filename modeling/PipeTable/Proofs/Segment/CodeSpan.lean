import Mathlib.Data.List.TakeWhile
import PipeTable.Proofs.Text.Trimming
import PipeTable.Segment

/-!
# Where code spans end

A code span is the one thing in a line that looks ahead without a bound: whether a run of backticks
opens one depends on every run behind it, up to the end of the line.  What the scan needs to know of
a text is therefore only which runs it can close (`closes`), and a character other than a backtick
between two texts keeps their runs apart (`closing?_append`, `closes_append`).

The main statements say what a text put behind a run changes about its span: nothing, if the span
ends before it or the text cannot close it (`spanLength_append`), and otherwise the span reaches
into the text (`lt_spanLength_append`).
-/

namespace PipeTable.Segment

/-- Whether a run of `size` backticks in front of the text finds its closing run there. -/
def closes (size : Nat) (t : Text) : Bool := (closing? size 0 t).isSome

/-- The size of the run that a backtick opens. -/
def openerSize (rest : Text) : Nat := (rest.takeWhile (· == backtick)).length + 1

/-! ## Runs in two texts with a character between them -/

/-- The closing run stands in the first text if it can, and in the second one otherwise. -/
lemma closing?_append (size run : Nat) (t u : Text) {c : Char} (hc : c ≠ backtick) :
    closing? size run (t ++ c :: u) =
      (closing? size run t).or ((closing? size 0 u).map (· + (t.length + 1))) := by
  induction t generalizing run with
  | nil =>
    by_cases hrun : run = size
    · simp [closing?, hc, hrun]
    · simp [closing?, hc, hrun]
  | cons d t ih =>
    have hmap (o o' : Option Nat) : (o.or (o'.map (· + (t.length + 1)))).map (· + 1) =
        (o.map (· + 1)).or (o'.map (· + ((d :: t).length + 1))) := by
      cases o <;> cases o' <;> simp; omega
    by_cases hd : d = backtick
    · simp only [List.cons_append, closing?, hd, if_true, ih, hmap]
    · by_cases hrun : run = size
      · simp [closing?, hd, hrun]
      · simp only [List.cons_append, closing?, hd, hrun, if_false, ih, hmap]

lemma closes_append (size : Nat) (t u : Text) {c : Char} (hc : c ≠ backtick) :
    closes size (t ++ c :: u) = (closes size t || closes size u) := by
  rw [closes, closing?_append size 0 t u hc]
  cases h : closing? size 0 t <;> simp [closes, h]

@[simp] lemma closes_nil {size : Nat} (h : 0 < size) : closes size [] = false := by
  have hne : ¬ 0 = size := by omega
  simp [closes, closing?, hne]

lemma closes_cons {size : Nat} (h : 0 < size) {c : Char} (hc : c ≠ backtick) (t : Text) :
    closes size (c :: t) = closes size t := by
  have hcons := closes_append size [] t hc
  rwa [List.nil_append, closes_nil h, Bool.false_or] at hcons

/-- A text without backticks in front of another one hides none of its runs. -/
lemma closes_append_left {size : Nat} (h : 0 < size) {l : Text} (hl : ∀ c ∈ l, c ≠ backtick)
    (t : Text) : closes size (l ++ t) = closes size t := by
  induction l with
  | nil => rfl
  | cons c l ih =>
    rw [List.cons_append, closes_cons h (hl c List.mem_cons_self)]
    exact ih fun d hd => hl d (List.mem_cons_of_mem c hd)

/-- A text without backticks closes no run. -/
lemma closes_eq_false {size : Nat} (h : 0 < size) {t : Text} (ht : ∀ c ∈ t, c ≠ backtick) :
    closes size t = false := by
  have happend := closes_append_left h ht []
  rwa [List.append_nil, closes_nil h] at happend

/-- A text without backticks behind another one adds no run. -/
lemma closes_append_right {size : Nat} (h : 0 < size) (t : Text) {r : Text}
    (hr : ∀ c ∈ r, c ≠ backtick) : closes size (t ++ r) = closes size t := by
  cases r with
  | nil => rw [List.append_nil]
  | cons c r =>
    rw [closes_append size t r (hr c List.mem_cons_self),
      closes_eq_false h fun d hd => hr d (List.mem_cons_of_mem c hd), Bool.or_false]

lemma closing?_replicate (size run n : Nat) :
    closing? size run (List.replicate n backtick) = if run + n = size then some n else none := by
  induction n generalizing run with
  | zero => rfl
  | succ n ih =>
    have hsum : run + 1 + n = run + (n + 1) := by omega
    rw [List.replicate_succ, closing?, if_pos rfl, ih, hsum]
    split <;> rfl

lemma closes_replicate (size : Nat) : closes size (List.replicate size backtick) := by
  rw [closes, closing?_replicate, if_pos (Nat.zero_add size)]
  rfl

/-! ## How far a span reaches -/

lemma closing?_le {size run : Nat} {t : Text} {n : Nat} (h : closing? size run t = some n) :
    n ≤ t.length := by
  induction t generalizing run n with
  | nil =>
    rw [closing?] at h
    split at h <;> simp_all
  | cons c t ih =>
    unfold closing? at h
    split at h
    · obtain ⟨m, hm, rfl⟩ := Option.map_eq_some_iff.1 h
      have := ih hm
      simp only [List.length_cons]
      omega
    · split at h
      · simp only [Option.some.injEq] at h
        omega
      · obtain ⟨m, hm, rfl⟩ := Option.map_eq_some_iff.1 h
        have := ih hm
        simp only [List.length_cons]
        omega

lemma closing?_pos {size : Nat} (hsize : 0 < size) {t : Text} {n : Nat}
    (h : closing? size 0 t = some n) : 0 < n := by
  have hne : ¬ 0 = size := by omega
  cases t with
  | nil => simp [closing?, hne] at h
  | cons c t =>
    simp only [closing?, hne, if_false] at h
    split at h <;> obtain ⟨m, -, rfl⟩ := Option.map_eq_some_iff.1 h <;> omega

/-- The text behind a run of backticks that begins with one and goes on with `rest`. -/
def afterRun (rest : Text) : Text := rest.drop (rest.takeWhile (· == backtick)).length

lemma length_afterRun (rest : Text) :
    (rest.takeWhile (· == backtick)).length + (afterRun rest).length = rest.length := by
  have h := (List.takeWhile_prefix (l := rest) (· == backtick)).length_le
  rw [afterRun, List.length_drop]
  omega

/-- A span consists of its opening run and what is behind it, up to the closing run. -/
lemma spanLength_eq (rest : Text) :
    spanLength rest = match closing? (openerSize rest) 0 (afterRun rest) with
      | some n => (rest.takeWhile (· == backtick)).length + n
      | none => 0 := rfl

/-- A backtick opens no span exactly if nothing closes its run. -/
lemma spanLength_eq_zero_iff {rest : Text} :
    spanLength rest = 0 ↔ closing? (openerSize rest) 0 (afterRun rest) = none := by
  rw [spanLength_eq]
  cases h : closing? (openerSize rest) 0 (afterRun rest) with
  | none => simp
  | some n =>
    have hpos := closing?_pos (Nat.succ_pos _) h
    simp only [reduceCtorEq, iff_false]
    omega

lemma spanLength_le (rest : Text) : spanLength rest ≤ rest.length := by
  have hlen := length_afterRun rest
  rw [spanLength_eq]
  cases h : closing? (openerSize rest) 0 (afterRun rest) with
  | none => simp
  | some n =>
    have hle := closing?_le h
    simp only
    omega

/-! ## A text behind a span -/

lemma takeWhile_append_cons (t u : Text) {c : Char} (hc : c ≠ backtick) :
    (t ++ c :: u).takeWhile (· == backtick) = t.takeWhile (· == backtick) := by
  induction t with
  | nil => simp [hc]
  | cons d t ih =>
    by_cases hd : d = backtick
    · simp [hd, ih]
    · simp [hd]

lemma openerSize_append (t u : Text) {c : Char} (hc : c ≠ backtick) :
    openerSize (t ++ c :: u) = openerSize t := by
  rw [openerSize, takeWhile_append_cons t u hc, ← openerSize]

lemma afterRun_append (t u : Text) {c : Char} (hc : c ≠ backtick) :
    afterRun (t ++ c :: u) = afterRun t ++ c :: u := by
  have h := (List.takeWhile_prefix (l := t) (· == backtick)).length_le
  rw [afterRun, takeWhile_append_cons t u hc, List.drop_append_of_le_length h, ← afterRun]

/-- A text behind a span does not change it, nor does one that cannot close an open run. -/
lemma spanLength_append (t u : Text) {c : Char} (hc : c ≠ backtick)
    (h : spanLength t ≠ 0 ∨ closes (openerSize t) u = false) :
    spanLength (t ++ c :: u) = spanLength t := by
  rw [spanLength_eq, openerSize_append t u hc, afterRun_append t u hc,
    takeWhile_append_cons t u hc, closing?_append _ _ _ u hc, spanLength_eq]
  cases hclosing : closing? (openerSize t) 0 (afterRun t) with
  | some n => simp
  | none =>
    have hzero : spanLength t = 0 := spanLength_eq_zero_iff.2 hclosing
    have hu : closing? (openerSize t) 0 u = none := by
      simpa [closes, hzero] using h
    simp [hu]

/-- A run that is open until a text closes it makes a span that reaches into that text. -/
lemma lt_spanLength_append (t u : Text) {c : Char} (hc : c ≠ backtick) (ht : spanLength t = 0)
    (hu : closes (openerSize t) u) : t.length < spanLength (t ++ c :: u) := by
  obtain ⟨n, hn⟩ := Option.isSome_iff_exists.1 hu
  rw [spanLength_eq, openerSize_append t u hc, afterRun_append t u hc,
    takeWhile_append_cons t u hc, closing?_append _ _ _ u hc, spanLength_eq_zero_iff.1 ht, hn]
  have hlen := length_afterRun t
  have hlt : t.length <
      (t.takeWhile (· == backtick)).length + (n + ((afterRun t).length + 1)) := by omega
  exact hlt

end PipeTable.Segment
