import PipeTable.Proofs.Segment.Token

/-!
# Pipes behind a line

A pipe put behind a line splits it, with one exception: a line that ends in a backslash with nothing
to escape (`EndsLone`) has the pipe escaped by it.  The main statement, `segments_append_pipe_iff`,
is that this is the only exception.

The pipe is no backtick, so it neither closes a run nor makes one longer, and the line reads in
front of it as it reads alone (`Begins.append_pipe`).
-/

namespace PipeTable.Segment

/-- Whether a line ends in a backslash that is neither escaped nor in a code span. -/
def EndsLone (line : Text) : Prop := ∃ tokens, Reads .longestTail line (tokens ++ [.lone])

variable {line rest : Text} {token : Token} {tokens : List Token}

/-! ## Reading in front of a pipe -/

lemma EndsRun.append_pipe {t : Text} (h : EndsRun t) : EndsRun (t ++ [pipe]) := by
  cases t with
  | nil => exact endsRun_cons.2 (by decide)
  | cons c t => exact h

lemma hasRun_append_pipe {size : Nat} (hsize : 0 < size) {t : Text} :
    HasRun size (t ++ [pipe]) ↔ HasRun size t := by
  have htick : pipe ≠ backtick := by decide
  rw [← closes_iff_hasRun hsize, ← closes_iff_hasRun hsize, closes_append size t [] htick,
    closes_nil hsize, Bool.or_false]

lemma FirstRun.append_pipe {size : Nat} {inside after : Text}
    (h : FirstRun size inside rest after) :
    FirstRun size inside (rest ++ [pipe]) (after ++ [pipe]) := by
  refine ⟨?_, h.starts, h.ends.append_pipe, h.first⟩
  rw [h.eq, List.append_assoc, List.append_assoc]

lemma opens_append_pipe {run size : Nat} {after : Text} :
    Opening.longestTail.opens run (after ++ [pipe]) size ↔
      Opening.longestTail.opens run after size := by
  constructor
  · rintro ⟨hsize, hle, hrun, hmax⟩
    refine ⟨hsize, hle, (hasRun_append_pipe hsize).1 hrun, fun larger hlt hlarger => ?_⟩
    rw [← hasRun_append_pipe (by omega)]
    exact hmax larger hlt hlarger
  · rintro ⟨hsize, hle, hrun, hmax⟩
    refine ⟨hsize, hle, (hasRun_append_pipe hsize).2 hrun, fun larger hlt hlarger => ?_⟩
    rw [hasRun_append_pipe (by omega)]
    exact hmax larger hlt hlarger

/-- A token of a line is one of the line with a pipe behind it, but for a backslash at the end. -/
lemma Begins.append_pipe (h : Begins .longestTail line token rest) (hne : token ≠ .lone) :
    Begins .longestTail (line ++ [pipe]) token (rest ++ [pipe]) := by
  cases token with
  | pipe => exact congrArg (· ++ [PipeTable.pipe]) h
  | plain c => exact ⟨h.1, congrArg (· ++ [pipe]) h.2⟩
  | escaped c => exact congrArg (· ++ [pipe]) h
  | lone => exact absurd rfl hne
  | ticks run =>
    obtain ⟨hrun, rfl, hrest, hnone⟩ := h
    refine ⟨hrun, List.append_assoc _ _ _, hrest.append_pipe, fun size hopens => ?_⟩
    exact hnone size (opens_append_pipe.1 hopens)
  | span literal size inside =>
    obtain ⟨after, rfl, hafter, hopens, hfirst⟩ := h
    exact ⟨after ++ [pipe], List.append_assoc _ _ _, hafter.append_pipe,
      opens_append_pipe.2 hopens, hfirst.append_pipe⟩

/-- The pipe behind a line is escaped by a backslash at its end, and splits otherwise. -/
lemma Reads.append_pipe (h : Reads .longestTail line tokens) :
    (∃ front, tokens = front ++ [.lone] ∧
        Reads .longestTail (line ++ [pipe]) (front ++ [.escaped pipe])) ∨
      (.lone ∉ tokens ∧ Reads .longestTail (line ++ [pipe]) (tokens ++ [.pipe])) := by
  induction h with
  | nil => exact .inr ⟨List.not_mem_nil, .cons rfl .nil⟩
  | @cons line rest token tokens hbegins hreads ih =>
    by_cases hlone : token = .lone
    · subst hlone
      obtain ⟨rfl, rfl⟩ := hbegins
      obtain rfl := hreads.unique .nil
      exact .inl ⟨[], rfl, .cons rfl .nil⟩
    · have hstep := hbegins.append_pipe hlone
      rcases ih with ⟨front, rfl, hfront⟩ | ⟨hnone, htokens⟩
      · exact .inl ⟨token :: front, rfl, .cons hstep hfront⟩
      · refine .inr ⟨?_, .cons hstep htokens⟩
        rw [List.mem_cons, not_or]
        exact ⟨Ne.symm hlone, hnone⟩

/-! ## Splitting in front of a pipe -/

/-- There is one segment more than pipes that split. -/
lemma length_separated (tokens : List Token) :
    (separated tokens).length = tokens.count .pipe + 1 := by
  induction tokens with
  | nil => rfl
  | cons token tokens ih =>
    have hstep : separated (token :: tokens) = token.before (separated tokens) := rfl
    rw [hstep]
    cases token with
    | pipe => rw [Token.before, List.length_cons, ih, List.count_cons_self]
    | _ => simp [Token.before, ih]

lemma separated_ne_nil (tokens : List Token) : separated tokens ≠ [] := by
  rw [← List.length_pos_iff, length_separated]
  exact Nat.succ_pos _

lemma separated_append_pipe (tokens : List Token) :
    separated (tokens ++ [.pipe]) = separated tokens ++ [[]] := by
  induction tokens with
  | nil => rfl
  | cons token tokens ih =>
    obtain ⟨p, ps, hp⟩ := List.exists_cons_of_ne_nil (separated_ne_nil tokens)
    have hstep (tokens : List Token) :
        separated (token :: tokens) = token.before (separated tokens) := rfl
    rw [List.cons_append, hstep, hstep, ih, hp]
    cases token <;> rfl

/-- A line that ends in a backslash with nothing to escape gets no further segment from a pipe. -/
lemma EndsLone.length_segments (h : EndsLone line) :
    (segments (line ++ [pipe])).length = (segments line).length := by
  obtain ⟨tokens, hreads⟩ := h
  rcases hreads.append_pipe with ⟨front, hfront, hpiped⟩ | ⟨hnone, -⟩
  · obtain rfl : tokens = front := List.append_cancel_right hfront
    rw [hreads.segments_eq, hpiped.segments_eq, length_separated, length_separated,
      List.count_append, List.count_append]
    rfl
  · exact absurd (List.mem_append_right tokens List.mem_cons_self) hnone

/-- A pipe behind a line splits it, unless a backslash at the end of the line escapes the pipe. -/
lemma segments_append_pipe_iff :
    segments (line ++ [pipe]) = segments line ++ [[]] ↔ ¬ EndsLone line := by
  constructor
  · intro h hlone
    have hlength := hlone.length_segments
    rw [h, List.length_append, List.length_singleton] at hlength
    omega
  · intro h
    obtain ⟨tokens, hreads⟩ := exists_reads .longestTail line
    rcases hreads.append_pipe with ⟨front, rfl, -⟩ | ⟨-, hpiped⟩
    · exact absurd ⟨front, hreads⟩ h
    · rw [hpiped.segments_eq, separated_append_pipe, hreads.segments_eq]

/-- Such a line does end in a backslash. -/
lemma EndsLone.exists_append (h : EndsLone line) : ∃ t, line = t ++ [backslash] := by
  obtain ⟨tokens, hreads⟩ := h
  refine ⟨tokens.flatMap Token.text, ?_⟩
  rw [← hreads.flatMap_text, List.flatMap_append]
  rfl

end PipeTable.Segment
