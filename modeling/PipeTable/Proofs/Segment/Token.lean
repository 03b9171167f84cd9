import PipeTable.Proofs.Segment.Intact
import PipeTable.Proofs.Segment.Run

/-!
# Structural pipes

The segments of a line are described here without the scan that finds them.  A line reads, from left
to right, as a list of tokens (`Reads`): a pipe that splits, a character that stands for itself, an
escape, a run of backticks that opens nothing, or a code span.  The segments are what stands between
the pipes among the tokens (`separated`), so that a pipe splits unless it is escaped or in a span.

Every line reads in exactly one way, whatever the rule is for what a run of backticks opens
(`exists_reads`, `Reads.unique`).  There are two such rules.  By `Opening.wholeRun` a run opens a
span as a whole, or it is literal as a whole.  By `Opening.longestTail` the longest part at the end
of a run that some later run closes opens a span, and only what is left of it is literal.

The scan goes by the second rule.  The main statement, `segments_eq_separated`, says so for every
line, and that the first rule gives the same segments as long as no part of a run left open has a
closing run behind it; `segments_ne_separated` is a line on which they differ.
-/

namespace PipeTable.Segment

/-! ## Tokens -/

/-- A piece of a line as it is read. -/
inductive Token where
  /-- A pipe that splits the line. -/
  | pipe
  /-- A character without a meaning of its own. -/
  | plain (c : Char)
  /-- A backslash and the character it escapes. -/
  | escaped (c : Char)
  /-- A backslash at the end of the line. -/
  | lone
  /-- A run of backticks that opens no span. -/
  | ticks (run : Nat)
  /-- A code span between runs of `size` backticks, with the backticks left over in front of it. -/
  | span (literal size : Nat) (inside : Text)
deriving DecidableEq

namespace Token

/-- The text of a token. -/
def text : Token → Text
  | pipe => [PipeTable.pipe]
  | plain c => [c]
  | escaped c => [backslash, c]
  | lone => [backslash]
  | ticks run => List.replicate run backtick
  | span literal size inside =>
    List.replicate (literal + size) backtick ++ (inside ++ List.replicate size backtick)

/-- The character that a token begins with. -/
def lead : Token → Char
  | pipe => PipeTable.pipe
  | plain c => c
  | escaped _ | lone => backslash
  | ticks _ | span _ _ _ => backtick

/-- The segments of a line that begins with a token, from those behind it. -/
def before : Token → List Text → List Text
  | pipe, segments => [] :: segments
  | token, segments => segments.modifyHead (token.text ++ ·)

end Token

/-- The texts between the pipes that split. -/
def separated (tokens : List Token) : List Text := tokens.foldr Token.before [[]]

/-! ## Readings -/

/-- A rule for what a run of backticks opens: `opens run after size` says that the last `size` of a
run of `run` backticks with `after` behind it open a span. -/
structure Opening where
  opens : (run : Nat) → (after : Text) → (size : Nat) → Prop
  pos {run : Nat} {after : Text} {size : Nat} : opens run after size → 0 < size
  le {run : Nat} {after : Text} {size : Nat} : opens run after size → size ≤ run
  hasRun {run : Nat} {after : Text} {size : Nat} : opens run after size → HasRun size after
  unique {run : Nat} {after : Text} {size size' : Nat} :
    opens run after size → opens run after size' → size = size'

/-- A run opens a span as a whole, or none at all. -/
def Opening.wholeRun : Opening where
  opens run after size := 0 < size ∧ size = run ∧ HasRun size after
  pos h := h.1
  le h := Nat.le_of_eq h.2.1
  hasRun h := h.2.2
  unique h h' := h.2.1.trans h'.2.1.symm

/-- The longest part at the end of a run that has a closing run opens a span. -/
def Opening.longestTail : Opening where
  opens run after size := 0 < size ∧ size ≤ run ∧ HasRun size after ∧
    ∀ larger, size < larger → larger ≤ run → ¬ HasRun larger after
  pos h := h.1
  le h := h.2.1
  hasRun h := h.2.2.1
  unique := by
    rintro run after size size' ⟨-, hle, hrun, hmax⟩ ⟨-, hle', hrun', hmax'⟩
    rcases Nat.lt_trichotomy size size' with hlt | heq | hgt
    · exact absurd hrun' (hmax size' hlt hle')
    · exact heq
    · exact absurd hrun (hmax' size hgt hle)

section
variable (rule : Opening)

/-- Whether a line begins with a token and goes on with `rest`. -/
def Begins (line : Text) : Token → Text → Prop
  | .pipe, rest => line = pipe :: rest
  | .plain c, rest => isMarkup c = false ∧ line = c :: rest
  | .escaped c, rest => line = backslash :: c :: rest
  | .lone, rest => line = [backslash] ∧ rest = []
  | .ticks run, rest => 0 < run ∧ line = List.replicate run backtick ++ rest ∧ EndsRun rest ∧
      ∀ size, ¬ rule.opens run rest size
  | .span literal size inside, rest => ∃ after,
      line = List.replicate (literal + size) backtick ++ after ∧ EndsRun after ∧
        rule.opens (literal + size) after size ∧ FirstRun size inside rest after

/-- How a line reads from left to right. -/
inductive Reads : Text → List Token → Prop where
  | nil : Reads [] []
  | cons {line rest : Text} {token : Token} {tokens : List Token} :
    Begins rule line token rest → Reads rest tokens → Reads line (token :: tokens)

end

variable {rule : Opening} {line rest : Text} {token : Token} {tokens : List Token}

namespace Begins

lemma eq_text_append (h : Begins rule line token rest) : line = token.text ++ rest := by
  cases token with
  | pipe => exact h
  | plain c => exact h.2
  | escaped c => exact h
  | lone =>
    obtain ⟨rfl, rfl⟩ := h
    rfl
  | ticks run => exact h.2.1
  | span literal size inside =>
    obtain ⟨after, rfl, -, -, hfirst⟩ := h
    rw [Token.text, hfirst.eq, List.append_assoc, List.append_assoc]

lemma exists_text_eq_cons (h : Begins rule line token rest) :
    ∃ t, token.text = token.lead :: t := by
  cases token with
  | pipe => exact ⟨[], rfl⟩
  | plain c => exact ⟨[], rfl⟩
  | escaped c => exact ⟨[c], rfl⟩
  | lone => exact ⟨[], rfl⟩
  | ticks run =>
    obtain ⟨n, rfl⟩ := Nat.exists_eq_add_one.2 h.1
    exact ⟨List.replicate n backtick, rfl⟩
  | span literal size inside =>
    obtain ⟨after, -, -, hopens, -⟩ := h
    obtain ⟨n, hn⟩ := Nat.exists_eq_add_one.2 (Nat.add_pos_right literal (rule.pos hopens))
    rw [Token.text, hn]
    exact ⟨_, rfl⟩

lemma head?_eq (h : Begins rule line token rest) : line.head? = some token.lead := by
  obtain ⟨t, ht⟩ := h.exists_text_eq_cons
  rw [h.eq_text_append, ht]
  rfl

lemma length_lt (h : Begins rule line token rest) : rest.length < line.length := by
  obtain ⟨t, ht⟩ := h.exists_text_eq_cons
  rw [h.eq_text_append, ht, List.length_append, List.length_cons]
  omega

lemma not_span_of_ticks {run literal size : Nat} {inside rest' : Text}
    (h : Begins rule line (.ticks run) rest) :
    ¬ Begins rule line (.span literal size inside) rest' := by
  rintro ⟨after, hline, hafter, hopens, -⟩
  obtain ⟨-, rfl, hrest, hnone⟩ := h
  obtain ⟨rfl, rfl⟩ := replicate_append_inj hrest hafter hline
  exact hnone size hopens

/-- A line begins with one token only. -/
lemma unique {token' : Token} {rest' : Text} (h : Begins rule line token rest)
    (h' : Begins rule line token' rest') : token = token' ∧ rest = rest' := by
  have hlead : token.lead = token'.lead := by
    rw [← Option.some.injEq, ← h.head?_eq, h'.head?_eq]
  -- only runs of backticks may be two kinds of tokens, the others differ in their first character
  cases token with
  | ticks run =>
    cases token' with
    | ticks run' =>
      obtain ⟨-, rfl, hrest, -⟩ := h
      obtain ⟨-, hline, hrest', -⟩ := h'
      obtain ⟨rfl, rfl⟩ := replicate_append_inj hrest hrest' hline
      exact ⟨rfl, rfl⟩
    | span => exact absurd h' h.not_span_of_ticks
    | _ => grind [Begins, Token.lead, isMarkup, pipe, backslash, backtick]
  | span literal size inside =>
    cases token' with
    | ticks => exact absurd h h'.not_span_of_ticks
    | span literal' size' inside' =>
      obtain ⟨after, rfl, hafter, hopens, hfirst⟩ := h
      obtain ⟨after', hline, hafter', hopens', hfirst'⟩ := h'
      obtain ⟨hrun, rfl⟩ := replicate_append_inj hafter hafter' hline
      rw [← hrun] at hopens'
      obtain rfl := rule.unique hopens hopens'
      obtain ⟨rfl, rfl⟩ := hfirst.unique (rule.pos hopens) hfirst'
      obtain rfl : literal = literal' := by omega
      exact ⟨rfl, rfl⟩
    | _ => grind [Begins, Token.lead, isMarkup, pipe, backslash, backtick]
  | _ => cases token' <;> grind [Begins, Token.lead, isMarkup, pipe, backslash, backtick]

end Begins

/-- A line that is not empty begins with a token. -/
lemma exists_begins (rule : Opening) (hline : line ≠ []) :
    ∃ token rest, Begins rule line token rest := by
  obtain ⟨c, t, rfl⟩ := List.exists_cons_of_ne_nil hline
  by_cases htick : c = backtick
  · -- the run is read off as a whole, and the rule says what part of it opens a span
    subst htick
    obtain ⟨n, after, rfl, hafter⟩ := exists_replicate_append t
    rw [← List.cons_append, ← List.replicate_succ]
    by_cases hopens : ∃ size, rule.opens (n + 1) after size
    · obtain ⟨size, hopens⟩ := hopens
      obtain ⟨inside, rest, hfirst⟩ := exists_firstRun (rule.pos hopens) (rule.hasRun hopens)
      have hrun : n + 1 - size + size = n + 1 := Nat.sub_add_cancel (rule.le hopens)
      refine ⟨.span (n + 1 - size) size inside, rest, after, ?_, hafter, ?_, hfirst⟩
      · rw [hrun]
      · rwa [hrun]
    · exact ⟨.ticks (n + 1), after, Nat.succ_pos n, rfl, hafter, not_exists.1 hopens⟩
  · by_cases hpipe : c = pipe
    · exact ⟨.pipe, t, by rw [hpipe]; rfl⟩
    · by_cases hslash : c = backslash
      · subst hslash
        cases t with
        | nil => exact ⟨.lone, [], rfl, rfl⟩
        | cons d t => exact ⟨.escaped d, t, rfl⟩
      · exact ⟨.plain c, t, isMarkup_eq_false.2 ⟨hpipe, hslash, htick⟩, rfl⟩

/-- Every line can be read. -/
lemma exists_reads (rule : Opening) (line : Text) : ∃ tokens, Reads rule line tokens := by
  induction hn : line.length using Nat.strong_induction_on generalizing line with
  | _ n ih =>
    by_cases hline : line = []
    · subst hline
      exact ⟨[], .nil⟩
    · obtain ⟨token, rest, hbegins⟩ := exists_begins rule hline
      obtain ⟨tokens, hreads⟩ := ih rest.length (hn ▸ hbegins.length_lt) rest rfl
      exact ⟨token :: tokens, .cons hbegins hreads⟩

/-- A line reads in one way only. -/
lemma Reads.unique {tokens' : List Token} (h : Reads rule line tokens)
    (h' : Reads rule line tokens') : tokens = tokens' := by
  induction h generalizing tokens' with
  | nil =>
    cases h' with
    | nil => rfl
    | cons hbegins' _ => exact absurd hbegins'.length_lt (Nat.not_lt_zero _)
  | cons hbegins _ ih =>
    cases h' with
    | nil => exact absurd hbegins.length_lt (Nat.not_lt_zero _)
    | cons hbegins' hreads' =>
      obtain ⟨rfl, rfl⟩ := hbegins.unique hbegins'
      rw [ih hreads']

/-- Reading loses nothing. -/
lemma Reads.flatMap_text (h : Reads rule line tokens) : tokens.flatMap Token.text = line := by
  induction h with
  | nil => rfl
  | cons hbegins _ ih => rw [List.flatMap_cons, ih, ← hbegins.eq_text_append]

/-! ## The scan of a token -/

/-- A longer run leaves the rule the larger choice. -/
lemma exists_opens_longestTail {run size : Nat} {after : Text} (hsize : 0 < size)
    (hle : size ≤ run) (hrun : HasRun size after) :
    ∃ longest, Opening.longestTail.opens run after longest := by
  induction run with
  | zero => omega
  | succ run ih =>
    by_cases hall : HasRun (run + 1) after
    · exact ⟨run + 1, Nat.succ_pos run, Nat.le_refl _, hall, fun larger hlt hle => by omega⟩
    · have hne : size ≠ run + 1 := by
        rintro rfl
        exact hall hrun
      obtain ⟨longest, hpos, hlongest, hhas, hmax⟩ := ih (by omega)
      refine ⟨longest, hpos, by omega, hhas, fun larger hlt hle => ?_⟩
      rcases Nat.le_succ_iff.1 hle with hle | rfl
      · exact hmax larger hlt hle
      · exact hall

lemma modifyHead_nil_append (ps : List Text) : ps.modifyHead ([] ++ ·) = ps := by
  cases ps <;> rfl

lemma modifyHead_append_append (t u : Text) (ps : List Text) :
    (ps.modifyHead (u ++ ·)).modifyHead (t ++ ·) = ps.modifyHead (t ++ u ++ ·) := by
  cases ps <;> simp

/-- Held characters are kept as they are. -/
lemma splitFrom_append (t rest : Text) :
    splitFrom t.length (t ++ rest) = (splitFrom 0 rest).modifyHead (t ++ ·) := by
  induction t with
  | nil => exact (modifyHead_nil_append _).symm
  | cons c t ih =>
    rw [List.cons_append, List.length_cons, splitFrom, ih]
    exact modifyHead_append_append [c] t _

/-- A character and what it holds are kept as they are. -/
lemma splitFrom_cons_append {c : Char} (hc : c ≠ pipe) (t rest : Text)
    (hheld : heldBy c (t ++ rest) = t.length) :
    splitFrom 0 (c :: (t ++ rest)) = (splitFrom 0 rest).modifyHead (c :: t ++ ·) := by
  rw [splitFrom, if_neg hc, hheld, splitFrom_append]
  exact modifyHead_append_append [c] t _

/-- Backticks at the beginning of a run are kept one by one as long as nothing closes the run. -/
lemma splitFrom_replicate (n m : Nat) {after : Text} (hafter : EndsRun after)
    (hopen : ∀ size, m < size → size ≤ n + m → ¬ HasRun size after) :
    splitFrom 0 (List.replicate (n + m) backtick ++ after) =
      (splitFrom 0 (List.replicate m backtick ++ after)).modifyHead
        (List.replicate n backtick ++ ·) := by
  have htick : backtick ≠ pipe := by decide
  induction n with
  | zero => rw [Nat.zero_add, List.replicate_zero, modifyHead_nil_append]
  | succ n ih =>
    -- the first backtick holds nothing, so that the scan goes on with a run that is shorter by one
    have hheld : heldBy backtick ([] ++ (List.replicate (n + m) backtick ++ after)) =
        ([] : Text).length := by
      have hnone : closing? (n + m + 1) 0 after = none := by
        have hopen' := hopen (n + m + 1) (by omega) (by omega)
        rw [← closes_eq_false_iff (Nat.succ_pos _), closes] at hopen'
        simpa using hopen'
      rw [List.nil_append, heldBy_backtick, spanLength_replicate_append _ hafter, hnone]
      rfl
    have hsum : n + 1 + m = n + m + 1 := by omega
    have hstep := splitFrom_cons_append htick _ _ hheld
    rw [List.nil_append] at hstep
    rw [hsum, List.replicate_succ, List.cons_append, hstep,
      ih fun size hlt hle => hopen size hlt (by omega)]
    exact modifyHead_append_append [backtick] (List.replicate n backtick) _

/-- A run whose size is that of a later one is kept with everything up to the end of that one. -/
lemma splitFrom_span {size : Nat} (hsize : 0 < size) {inside rest after : Text}
    (hafter : EndsRun after) (hfirst : FirstRun size inside rest after) :
    splitFrom 0 (List.replicate size backtick ++ after) =
      (splitFrom 0 rest).modifyHead
        (List.replicate size backtick ++ (inside ++ List.replicate size backtick) ++ ·) := by
  have htick : backtick ≠ pipe := by decide
  obtain ⟨n, rfl⟩ := Nat.exists_eq_add_one.2 hsize
  have heq : List.replicate n backtick ++ after =
      List.replicate n backtick ++ (inside ++ List.replicate (n + 1) backtick) ++ rest := by
    rw [hfirst.eq]
    simp only [List.append_assoc]
  have hheld : heldBy backtick (List.replicate n backtick ++ after) =
      (List.replicate n backtick ++ (inside ++ List.replicate (n + 1) backtick)).length := by
    rw [heldBy_backtick, spanLength_replicate_append _ hafter,
      closing?_eq_of_firstRun hsize hfirst]
    simp
  rw [heq] at hheld
  rw [List.replicate_succ, List.cons_append, heq, splitFrom_cons_append htick _ _ hheld]
  rfl

/-- The scan takes the token that a line begins with in one go. -/
lemma Begins.splitFrom_eq (h : Begins .longestTail line token rest) :
    splitFrom 0 line = token.before (splitFrom 0 rest) := by
  cases token with
  | pipe =>
    rw [show line = _ from h, splitFrom, if_pos rfl]
    rfl
  | plain c =>
    obtain ⟨hc, rfl⟩ := h
    exact splitFrom_cons_append (isMarkup_eq_false.1 hc).1 [] rest
      (heldBy_of_not_isMarkup hc rest)
  | escaped c =>
    have hslash : backslash ≠ pipe := by decide
    rw [show line = _ from h]
    exact splitFrom_cons_append hslash [c] rest rfl
  | lone =>
    obtain ⟨rfl, rfl⟩ := h
    rfl
  | ticks run =>
    obtain ⟨-, rfl, hrest, hnone⟩ := h
    refine splitFrom_replicate run 0 hrest fun size hsize hle hrun => ?_
    obtain ⟨longest, hopens⟩ := exists_opens_longestTail hsize hle hrun
    exact hnone longest hopens
  | span literal size inside =>
    obtain ⟨after, rfl, hafter, ⟨hsize, -, -, hmax⟩, hfirst⟩ := h
    rw [splitFrom_replicate literal size hafter hmax, splitFrom_span hsize hafter hfirst,
      modifyHead_append_append, ← List.append_assoc, ← List.replicate_add]
    rfl

/-! ## Segments -/

/-- The scan reads a line by the longest tails of its runs. -/
lemma Reads.segments_eq (h : Reads .longestTail line tokens) :
    segments line = separated tokens := by
  induction h with
  | nil => rfl
  | cons hbegins _ ih =>
    rw [segments, hbegins.splitFrom_eq, ← segments, ih]
    rfl

/-- Whether no part of a run left open has a closing run behind it. -/
def NoPartCloses : List Token → Prop
  | [] => True
  | .ticks run :: tokens =>
    (∀ size, 0 < size → size ≤ run → ¬ HasRun size (tokens.flatMap Token.text)) ∧
      NoPartCloses tokens
  | _ :: tokens => NoPartCloses tokens

/-- A run that opens a span as a whole does so by its longest tail, too. -/
lemma Begins.longestTail (h : Begins .wholeRun line token rest)
    (hticks : ∀ run, token = .ticks run → ∀ size, 0 < size → size ≤ run → ¬ HasRun size rest) :
    Begins .longestTail line token rest := by
  cases token with
  | pipe => exact h
  | plain c => exact h
  | escaped c => exact h
  | lone => exact h
  | ticks run =>
    obtain ⟨hrun, rfl, hrest, -⟩ := h
    refine ⟨hrun, rfl, hrest, ?_⟩
    rintro size ⟨hsize, hle, hhas, -⟩
    exact hticks run rfl size hsize hle hhas
  | span literal size inside =>
    obtain ⟨after, rfl, hafter, ⟨hsize, hwhole, hhas⟩, hfirst⟩ := h
    exact ⟨after, rfl, hafter, ⟨hsize, Nat.le_of_eq hwhole, hhas, fun larger hlt hle => by omega⟩,
      hfirst⟩

lemma Reads.longestTail (h : Reads .wholeRun line tokens) (hparts : NoPartCloses tokens) :
    Reads .longestTail line tokens := by
  induction h with
  | nil => exact .nil
  | @cons line rest token tokens hbegins hreads ih =>
    have hrest : NoPartCloses tokens := by
      cases token with
      | ticks run => exact hparts.2
      | _ => exact hparts
    refine .cons (hbegins.longestTail ?_) (ih hrest)
    rintro run rfl
    rw [← hreads.flatMap_text]
    exact hparts.1

end Segment

open Segment

/-- The segments of a line are what stands between the pipes that split it: those that are neither
escaped nor in a code span.  Runs open spans by their longest tails that have a closing run, and it
makes no difference to let them open spans only as a whole if no part of a run that is then left
open has a closing run. -/
theorem segments_eq_separated (line : Text) :
    (∃! tokens, Reads .longestTail line tokens) ∧ (∃! tokens, Reads .wholeRun line tokens) ∧
      (∀ tokens, Reads .longestTail line tokens → segments line = separated tokens) ∧
      ∀ tokens, Reads .wholeRun line tokens → NoPartCloses tokens →
        segments line = separated tokens := by
  have hunique (rule : Opening) : ∃! tokens, Reads rule line tokens := by
    obtain ⟨tokens, htokens⟩ := exists_reads rule line
    exact ⟨tokens, htokens, fun tokens' htokens' => htokens'.unique htokens⟩
  refine ⟨hunique _, hunique _, ?_, ?_⟩
  · intro tokens hreads
    exact hreads.segments_eq
  · intro tokens hreads hparts
    exact (hreads.longestTail hparts).segments_eq

/-- The run of two backticks is open, but its second one has a closing run behind the pipe. -/
theorem segments_ne_separated :
    ∃ tokens, Reads .wholeRun "``a|`b".toList tokens ∧
      segments "``a|`b".toList ≠ separated tokens := by
  have hticks (run : Nat) (hrun : 0 < run) (after : Text) (hafter : EndsRun after)
      (hopen : closes run after = false) :
      Begins .wholeRun (List.replicate run backtick ++ after) (.ticks run) after := by
    refine ⟨hrun, rfl, hafter, ?_⟩
    rintro size ⟨hsize, rfl, hhas⟩
    exact (closes_eq_false_iff hsize).1 hopen hhas
  have hplain (c : Char) (rest : Text) (hc : isMarkup c = false) :
      Begins .wholeRun (c :: rest) (.plain c) rest := ⟨hc, rfl⟩
  have hpipe (rest : Text) : Begins .wholeRun (pipe :: rest) .pipe rest := rfl
  have hreads : Reads .wholeRun "``a|`b".toList
      [.ticks 2, .plain 'a', .pipe, .ticks 1, .plain 'b'] := by
    refine .cons (hticks 2 (by decide) "a|`b".toList (endsRun_cons.2 (by decide)) (by decide)) ?_
    refine .cons (hplain 'a' "|`b".toList (by decide)) ?_
    refine .cons (hpipe "`b".toList) ?_
    refine .cons (hticks 1 (by decide) "b".toList (endsRun_cons.2 (by decide)) (by decide)) ?_
    exact .cons (hplain 'b' [] (by decide)) .nil
  exact ⟨_, hreads, by decide⟩

end PipeTable
