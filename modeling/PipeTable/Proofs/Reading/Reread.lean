import PipeTable.Proofs.Reading.Readable
import PipeTable.Proofs.Segment.Ending

/-!
# Rows that are read again

A row with cells is written with both outer pipes, whether or not the line it was read from had
them.  So the text of a row is its line with a pipe more in front, a pipe more behind, both or
neither (`Row.TakesFrom.text_eq`).  A pipe in front of a line always splits it, and one behind it
does unless it is escaped by a backslash at the end of the line, which had nothing to escape before.

The main statement, `readRow_text_readRow_iff`, is that writing a row and reading it again gives the
same row for every line but those: there the added pipe becomes part of the last cell, as in
`readRow_text_readRow_ne`.
-/

namespace PipeTable

open Segment

variable {rule : MarginRule} {line : Text}

/-! ## Pipes around a line -/

lemma segments_ne_nil (line : Text) : segments line ≠ [] := splitFrom_ne_nil 0 line

/-- Every pipe in front of a line splits it. -/
lemma segments_replicate_append (m : Nat) (line : Text) :
    segments (List.replicate m pipe ++ line) = List.replicate m [] ++ segments line := by
  induction m with
  | zero => rfl
  | succ m ih =>
    rw [List.replicate_succ, List.cons_append, segments, splitFrom, if_pos rfl, ← segments, ih]
    rfl

lemma endsLone_replicate_append (m : Nat) (line : Text) :
    EndsLone (List.replicate m pipe ++ line) ↔ EndsLone line := by
  rw [← not_iff_not, ← segments_append_pipe_iff, ← segments_append_pipe_iff, List.append_assoc,
    segments_replicate_append, segments_replicate_append, List.append_assoc,
    List.append_right_inj]

lemma intercalate_concat {ps : List Text} (hps : ps ≠ []) (q : Text) :
    List.intercalate [pipe] (ps ++ [q]) = List.intercalate [pipe] ps ++ pipe :: q := by
  induction ps with
  | nil => exact absurd rfl hps
  | cons p ps ih =>
    cases ps with
    | nil => simp
    | cons p' ps =>
      have hps' := ih (List.cons_ne_nil p' ps)
      rw [List.cons_append] at hps'
      rw [List.cons_append, List.cons_append, List.intercalate_cons_cons,
        List.intercalate_cons_cons, hps']
      simp only [List.append_assoc]

/-- Text without markup behind the last pipe is no backslash. -/
lemma not_endsLone_of_isPlain {t u : Text} (hu : IsPlain u) : ¬ EndsLone (t ++ pipe :: u) := by
  intro hlone
  obtain ⟨v, hv⟩ := hlone.exists_append
  have hlast : (pipe :: u).getLast? = some backslash := by
    rw [← List.getLast?_append_cons t, hv, List.getLast?_concat]
  rcases List.mem_cons.1 (List.mem_of_getLast? hlast) with heq | hmem
  · exact absurd heq (by decide)
  · exact absurd (hu backslash hmem) (by decide)

/-! ## The text of a row that was read -/

namespace Row.TakesFrom

variable {left right : Option Text} {r : Row}

/-- Without cells there is one segment, and it is the left margin. -/
lemma eq_some_of_noCells (h : r.TakesFrom rule (segments line) left right) (hcells : r.cells = []) :
    left = some r.marginLeft ∧ segments line = [r.marginLeft] := by
  obtain ⟨heq, hmarginLeft, -, -, hright⟩ := h
  rw [hcells, List.map_nil, List.append_nil] at heq
  cases right with
  | some last =>
    obtain ⟨hlen, -⟩ := hright.1 rfl
    rw [heq, List.length_append] at hlen
    exact absurd hlen (Nat.lt_irrefl _)
  | none =>
    cases left with
    | none => exact absurd heq (segments_ne_nil line)
    | some first =>
      obtain rfl : r.marginLeft = first := hmarginLeft
      exact ⟨rfl, heq⟩

/-- Besides an empty right margin, the pieces of a row are the segments of its line, with a pipe in
front of it if it has no left margin. -/
lemma pieces_eq (h : r.TakesFrom rule (segments line) left right) :
    r.pieces = segments ((if left.isSome then [] else [pipe]) ++ line) ++
      if right.isSome then [] else [[]] := by
  have hfront : segments ((if left.isSome then [] else [pipe]) ++ line) =
      r.marginLeft :: r.cells.map (·.raw) ++ right.toList := by
    cases left with
    | some m =>
      rw [h.marginLeft_eq]
      exact h.eq
    | none =>
      have hpipe : segments ([pipe] ++ line) = [] :: segments line :=
        segments_replicate_append 1 line
      rw [h.marginLeft_eq]
      exact hpipe.trans (congrArg ([] :: ·) h.eq)
  rw [hfront, Row.pieces, h.marginRight_eq]
  cases right with
  | some m => exact (List.append_nil _).symm
  | none => rw [Option.toList_none, List.append_nil]; rfl

/-- The pipes that the line lacks are put in front of it and behind it. -/
lemma text_eq (h : r.TakesFrom rule (segments line) left right) :
    r.text = (if left.isSome then [] else [pipe]) ++ line ++
      if r.cells = [] ∨ right.isSome then [] else [pipe] := by
  by_cases hcells : r.cells = []
  · obtain ⟨hleft, hsegments⟩ := h.eq_some_of_noCells hcells
    have hjoin := join_segments line
    rw [hsegments, List.intercalate_singleton] at hjoin
    simp [Row.text, hcells, hleft, hjoin]
  · rw [Row.text, if_neg hcells, h.pieces_eq]
    cases right with
    | some m => simp [join_segments]
    | none =>
      simp only [Option.isSome_none, Bool.false_eq_true, if_false, hcells, or_self]
      rw [intercalate_concat (segments_ne_nil _), join_segments]

end Row.TakesFrom

/-- A line without cells is all left margin. -/
lemma matchesAll_of_cells_eq_nil (h : (readRow rule line).cells = []) : rule.matchesAll line := by
  obtain ⟨left, right, htakes⟩ := readRow_takesFrom rule line
  obtain ⟨-, hsegments⟩ := htakes.eq_some_of_noCells h
  rw [← join_segments line, hsegments, List.intercalate_singleton]
  exact htakes.matchesAll_marginLeft

/-- The text of a row with cells is its line with some pipes in front, and one behind it if the line
had no right margin.  The pieces of the row are the segments of that text before the latter. -/
lemma text_readRow (h : (readRow rule line).cells ≠ []) : ∃ m,
    (readRow rule line).pieces = segments (List.replicate m pipe ++ line) ∧
        (readRow rule line).text = List.replicate m pipe ++ line ∧ ¬ EndsLone line ∨
      (readRow rule line).pieces = segments (List.replicate m pipe ++ line) ++ [[]] ∧
        (readRow rule line).text = List.replicate m pipe ++ line ++ [pipe] := by
  obtain ⟨left, right, htakes⟩ := readRow_takesFrom rule line
  obtain ⟨m, hm⟩ : ∃ m, (if left.isSome then [] else [pipe]) = List.replicate m pipe := by
    cases left with
    | some _ => exact ⟨0, rfl⟩
    | none => exact ⟨1, rfl⟩
  have hpieces := htakes.pieces_eq
  have htext := htakes.text_eq
  rw [hm] at hpieces htext
  refine ⟨m, ?_⟩
  cases right with
  | some last =>
    have hline : (readRow rule line).text = List.replicate m pipe ++ line := by simpa using htext
    refine .inl ⟨by simpa using hpieces, hline, ?_⟩
    rw [← endsLone_replicate_append m, ← hline, Row.text, if_neg h, Row.pieces,
      intercalate_concat (List.cons_ne_nil _ _)]
    exact not_endsLone_of_isPlain (isPlain_of_isBlank htakes.isBlank_marginRight)
  | none => exact .inr ⟨by simpa using hpieces, by simpa [h] using htext⟩

/-! ## Reading it again -/

/-- A row with cells comes back exactly if its text has its pieces as segments. -/
lemma readRow_text_iff_segments (h : (readRow rule line).cells ≠ []) :
    readRow rule (readRow rule line).text = readRow rule line ↔
      segments (readRow rule line).text = (readRow rule line).pieces := by
  have hparsed := readRow_isParsed rule line
  refine ⟨fun heq => ?_, readRow_of_segments hparsed.marginLeft hparsed.marginRight h⟩
  -- a pipe more around the text would make the text of the row longer than it is
  rw [← heq] at h
  obtain ⟨m, hm⟩ := text_readRow h
  rw [heq] at hm
  rcases hm with ⟨hpieces, htext, -⟩ | ⟨-, htext⟩
  · have hlength := congrArg List.length htext
    obtain rfl : m = 0 := by simpa using hlength
    exact hpieces.symm
  · have hlength := congrArg List.length htext
    simp only [List.length_append, List.length_replicate, List.length_singleton] at hlength
    omega

/-- Writing a row that was read and reading it again gives the same row, unless its line ends in a
backslash that is neither escaped nor in a code span. -/
theorem readRow_text_readRow_iff (hrule : rule.IsSingle) (line : Text) :
    readRow rule (readRow rule line).text = readRow rule line ↔ ¬ EndsLone line := by
  by_cases hcells : (readRow rule line).cells = []
  · have hmargin := matchesAll_of_cells_eq_nil hcells
    have hplain : IsPlain line := hrule.isPlain hmargin
    have hnone : ¬ EndsLone line := by
      intro hlone
      obtain ⟨t, rfl⟩ := hlone.exists_append
      exact absurd (hplain backslash (List.mem_append_right t List.mem_cons_self)) (by decide)
    have hread := readRow_of_matchesAll hrule hmargin
    have htext : (readRow rule line).text = line := by
      rw [hread]
      rfl
    rw [htext]
    exact iff_of_true rfl hnone
  · rw [readRow_text_iff_segments hcells]
    obtain ⟨m, ⟨hpieces, htext, hnone⟩ | ⟨hpieces, htext⟩⟩ := text_readRow hcells
    · rw [htext, hpieces]
      exact iff_of_true rfl hnone
    · rw [htext, hpieces, segments_append_pipe_iff, endsLone_replicate_append]

/-- A quoted row with an escaped pipe and an open backtick that lacks its last pipe. -/
theorem readRow_text_readRow_quoted :
    readRow ⟨.ofList [['>']]⟩ "> |a\\|b| `c|".toList =
      readRow ⟨.ofList [['>']]⟩ "> |a\\|b| `c".toList := by
  have hnone : ¬ EndsLone "> |a\\|b| `c".toList := by
    intro hlone
    obtain ⟨t, ht⟩ := hlone.exists_append
    have hlast := congrArg List.getLast? ht
    rw [List.getLast?_concat] at hlast
    exact absurd hlast (by decide)
  have htext : (readRow ⟨.ofList [['>']]⟩ "> |a\\|b| `c".toList).text =
      "> |a\\|b| `c|".toList := by decide
  rw [← htext]
  exact (readRow_text_readRow_iff (by decide) _).2 hnone

/-- The backslash of the only cell escapes the pipe that is written behind it. -/
theorem readRow_text_readRow_ne :
    readRow .blank (readRow .blank [backslash]).text ≠ readRow .blank [backslash] := by
  decide

end PipeTable
