import Mathlib.Data.List.Basic
import PipeTable.Proofs.Segment.CodeSpan

/-!
# Runs of backticks

A run is maximal: it is not part of a longer one.  `HasRun` says so of a run anywhere in a text, and
`FirstRun` singles out the first one of a size.  The scan looks for the latter by counting, and the
main statements are that the two agree: `closing?` stops right behind the first run
(`closing?_eq_of_firstRun`, with the reverse `exists_firstRun`), so that a text closes exactly the
runs that it has (`closes_iff_hasRun`).

A run in front of a text that does not go on with it is read off as a whole
(`replicate_append_inj`, `spanLength_replicate_append`).
-/

namespace PipeTable.Segment

/-- Whether the text begins behind a run, that is, does not go on with it. -/
def EndsRun (t : Text) : Prop := t.head? ≠ some backtick

/-- Whether a run may begin behind the text, that is, the text does not end in one. -/
def StartsRun (t : Text) : Prop := t.getLast? ≠ some backtick

/-- A run of exactly `size` backticks somewhere in a text. -/
def HasRun (size : Nat) (t : Text) : Prop :=
  ∃ l r, t = l ++ (List.replicate size backtick ++ r) ∧ StartsRun l ∧ EndsRun r

/-- The first run of exactly `size` backticks in a text stands between `inside` and `rest`. -/
structure FirstRun (size : Nat) (inside rest t : Text) : Prop where
  eq : t = inside ++ (List.replicate size backtick ++ rest)
  starts : StartsRun inside
  ends : EndsRun rest
  first : ¬ HasRun size inside

/-! ## The ends of a run -/

lemma endsRun_nil : EndsRun [] := by simp [EndsRun]

lemma endsRun_cons {c : Char} {t : Text} : EndsRun (c :: t) ↔ c ≠ backtick := by
  simp [EndsRun]

lemma startsRun_nil : StartsRun [] := by simp [StartsRun]

lemma startsRun_concat {c : Char} {t : Text} : StartsRun (t ++ [c]) ↔ c ≠ backtick := by
  simp [StartsRun]

lemma startsRun_cons {c : Char} (hc : c ≠ backtick) {t : Text} (ht : StartsRun t) (l : Text) :
    StartsRun (l ++ c :: t) := by
  rcases List.eq_nil_or_concat' t with rfl | ⟨t, d, rfl⟩
  · exact startsRun_concat.2 hc
  · rw [← List.cons_append, ← List.append_assoc]
    exact startsRun_concat.2 (startsRun_concat.1 ht)

/-- The run at the beginning of a text. -/
lemma exists_replicate_append (t : Text) :
    ∃ run after, t = List.replicate run backtick ++ after ∧ EndsRun after := by
  induction t with
  | nil => exact ⟨0, [], rfl, endsRun_nil⟩
  | cons c t ih =>
    by_cases hc : c = backtick
    · obtain ⟨run, after, rfl, hafter⟩ := ih
      exact ⟨run + 1, after, by rw [hc, List.replicate_succ, List.cons_append], hafter⟩
    · exact ⟨0, c :: t, rfl, endsRun_cons.2 hc⟩

lemma takeWhile_replicate_append (run : Nat) {after : Text} (hafter : EndsRun after) :
    (List.replicate run backtick ++ after).takeWhile (· == backtick) =
      List.replicate run backtick := by
  have hall : ∀ c ∈ List.replicate run backtick, (c == backtick) = true := by
    intro c hc
    rw [(List.mem_replicate.1 hc).2]
    rfl
  rw [List.takeWhile_append_of_pos hall]
  cases after with
  | nil => rw [List.takeWhile_nil, List.append_nil]
  | cons c after =>
    have hc : ¬ (c == backtick) = true := by simpa using endsRun_cons.1 hafter
    have hnil : (c :: after).takeWhile (· == backtick) = [] := List.takeWhile_cons_of_neg hc
    rw [hnil, List.append_nil]

/-- A text begins with one run only. -/
lemma replicate_append_inj {run run' : Nat} {after after' : Text} (hafter : EndsRun after)
    (hafter' : EndsRun after')
    (h : List.replicate run backtick ++ after = List.replicate run' backtick ++ after') :
    run = run' ∧ after = after' := by
  have htake := takeWhile_replicate_append run hafter
  rw [h, takeWhile_replicate_append run' hafter'] at htake
  have hrun : run' = run := by simpa using congrArg List.length htake
  subst hrun
  exact ⟨rfl, List.append_cancel_left h⟩

/-! ## Closing runs -/

lemma closing?_replicate_append (size : Nat) {rest : Text} (hrest : EndsRun rest) :
    closing? size 0 (List.replicate size backtick ++ rest) = some size := by
  have hall : closing? size 0 (List.replicate size backtick) = some size := by
    rw [closing?_replicate, if_pos (Nat.zero_add size)]
  cases rest with
  | nil => rw [List.append_nil, hall]
  | cons c rest => rw [closing?_append _ _ _ _ (endsRun_cons.1 hrest), hall, Option.some_or]

/-- What the scan for a closing run finds, with the run that it has already begun in front. -/
lemma exists_of_closing? {size : Nat} (hsize : 0 < size) {run : Nat} {t : Text} {n : Nat}
    (h : closing? size run t = some n) :
    ∃ inside rest, List.replicate run backtick ++ t =
        inside ++ (List.replicate size backtick ++ rest) ∧
      StartsRun inside ∧ EndsRun rest ∧ closes size inside = false := by
  induction t generalizing run n with
  | nil =>
    rw [closing?] at h
    split at h
    · next hrun =>
      exact ⟨[], [], by rw [hrun]; rfl, startsRun_nil, endsRun_nil, closes_nil hsize⟩
    · cases h
  | cons c t ih =>
    unfold closing? at h
    split at h
    · next hc =>
      obtain ⟨m, hm, -⟩ := Option.map_eq_some_iff.1 h
      have hrun : List.replicate (run + 1) backtick ++ t =
          List.replicate run backtick ++ c :: t := by
        rw [List.replicate_succ', hc, List.append_assoc, List.singleton_append]
      rw [← hrun]
      exact ih hm
    · next hc =>
      split at h
      · next hrun =>
        exact ⟨[], c :: t, by rw [hrun]; rfl, startsRun_nil, endsRun_cons.2 hc, closes_nil hsize⟩
      · next hrun =>
        -- the run that was begun has another size, and the search goes on behind it
        obtain ⟨m, hm, -⟩ := Option.map_eq_some_iff.1 h
        obtain ⟨inside, rest, heq, hstarts, hends, hclosed⟩ := ih hm
        rw [List.replicate_zero, List.nil_append] at heq
        have hbegun : closes size (List.replicate run backtick) = false := by
          rw [closes, closing?_replicate, if_neg (by omega)]
          rfl
        refine ⟨List.replicate run backtick ++ c :: inside, rest, ?_,
          startsRun_cons hc hstarts _, hends, ?_⟩
        · rw [heq, List.append_assoc, List.cons_append]
        · rw [closes_append size _ inside hc, hbegun, hclosed]
          rfl

lemma closes_of_hasRun {size : Nat} {t : Text} (h : HasRun size t) : closes size t := by
  obtain ⟨l, r, rfl, hl, hr⟩ := h
  have hrun : closes size (List.replicate size backtick ++ r) := by
    rw [closes, closing?_replicate_append size hr]
    rfl
  rcases List.eq_nil_or_concat' l with rfl | ⟨l, c, rfl⟩
  · exact hrun
  · rw [List.append_assoc, List.singleton_append, closes_append size l _ (startsRun_concat.1 hl),
      hrun, Bool.or_true]

/-- A text closes exactly the runs that it has. -/
lemma closes_iff_hasRun {size : Nat} (hsize : 0 < size) {t : Text} :
    closes size t ↔ HasRun size t := by
  refine ⟨fun h => ?_, closes_of_hasRun⟩
  obtain ⟨n, hn⟩ := Option.isSome_iff_exists.1 h
  obtain ⟨inside, rest, heq, hstarts, hends, -⟩ := exists_of_closing? hsize hn
  exact ⟨inside, rest, heq, hstarts, hends⟩

lemma closes_eq_false_iff {size : Nat} (hsize : 0 < size) {t : Text} :
    closes size t = false ↔ ¬ HasRun size t := by
  rw [← closes_iff_hasRun hsize, Bool.not_eq_true]

/-- A text that has a run of a size has a first one. -/
lemma exists_firstRun {size : Nat} (hsize : 0 < size) {t : Text} (h : HasRun size t) :
    ∃ inside rest, FirstRun size inside rest t := by
  obtain ⟨n, hn⟩ := Option.isSome_iff_exists.1 (closes_of_hasRun h)
  obtain ⟨inside, rest, heq, hstarts, hends, hclosed⟩ := exists_of_closing? hsize hn
  exact ⟨inside, rest, heq, hstarts, hends, (closes_eq_false_iff hsize).1 hclosed⟩

/-- The scan for a closing run stops right behind the first run of the size. -/
lemma closing?_eq_of_firstRun {size : Nat} (hsize : 0 < size) {inside rest t : Text}
    (h : FirstRun size inside rest t) : closing? size 0 t = some (inside.length + size) := by
  obtain ⟨rfl, hstarts, hends, hfirst⟩ := h
  have hrun := closing?_replicate_append size hends
  have hclosed := (closes_eq_false_iff hsize).2 hfirst
  rcases List.eq_nil_or_concat' inside with rfl | ⟨inside, c, rfl⟩
  · rw [List.nil_append, hrun, List.length_nil, Nat.zero_add]
  · have hc := startsRun_concat.1 hstarts
    rw [closes_append size inside [] hc, Bool.or_eq_false_iff] at hclosed
    have hnone : closing? size 0 inside = none := by simpa [closes] using hclosed.1
    rw [List.append_assoc, List.singleton_append, closing?_append _ _ _ _ hc, hnone, hrun]
    simp only [Option.none_or, Option.map_some, List.length_append, List.length_singleton,
      Option.some.injEq]
    omega

/-- There is one first run of a size only. -/
lemma FirstRun.unique {size : Nat} (hsize : 0 < size) {inside rest inside' rest' t : Text}
    (h : FirstRun size inside rest t) (h' : FirstRun size inside' rest' t) :
    inside = inside' ∧ rest = rest' := by
  have hlength : inside.length = inside'.length := by
    have hclosing := closing?_eq_of_firstRun hsize h
    rw [closing?_eq_of_firstRun hsize h', Option.some.injEq] at hclosing
    omega
  have happend := h.eq.symm.trans h'.eq
  obtain ⟨hinside, hrest⟩ := List.append_inj happend hlength
  exact ⟨hinside, List.append_cancel_left hrest⟩

/-! ## The span of a run -/

lemma heldBy_backtick (rest : Text) : heldBy backtick rest = spanLength rest := rfl

/-- The span that a run opens which begins with a backtick and goes on with `run` more. -/
lemma spanLength_replicate_append (run : Nat) {after : Text} (hafter : EndsRun after) :
    spanLength (List.replicate run backtick ++ after) =
      (closing? (run + 1) 0 after).elim 0 (run + ·) := by
  have hlength : ((List.replicate run backtick ++ after).takeWhile (· == backtick)).length =
      run := by
    rw [takeWhile_replicate_append run hafter, List.length_replicate]
  have hdrop : (List.replicate run backtick ++ after).drop run = after := by
    rw [List.drop_append_of_le_length (by simp), List.drop_of_length_le (by simp),
      List.nil_append]
  rw [spanLength_eq, openerSize, afterRun, hlength, hdrop]
  cases closing? (run + 1) 0 after <;> rfl

end PipeTable.Segment
