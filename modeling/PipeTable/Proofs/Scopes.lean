import PipeTable.Proofs.Refusal
import PipeTable.Session

/-!
# Runs with scopes

Between the opening and the closing of a scope, styles may be set and reset and other scopes opened
and closed, as long as these are closed again.  Such a run (`WellBracketed`) closes no scope that it
has not opened, whether scopes are left normally or by a fault, and therefore keeps the styles that
are to be returned to (`WellBracketed.exists_run?_eq`).  So closing a scope leads back to where it
was opened (`run?_scope`).

The current style is all that an operation sees of a run, and only where it is given no style: it
does then what it does when it is given the current one (`Edit.outcome_given_none`), and otherwise
the current style makes no difference (`Edit.outcome_given_some`).  `restores_and_stands_in` puts
this together for every point of a run.
-/

namespace PipeTable

namespace Scopes

/-! ## Steps -/

/-- How the work in a scope comes to its end. -/
inductive Ending
  | normally
  | raised (message : Text)
  deriving DecidableEq, Repr

/-- What a host can do to its scopes. -/
inductive Step
  | set (style : Style)
  | reset
  | enter (style : Style)
  | leave (ending : Ending)

/-- The scopes after a step, none if there is no scope to close.  A scope is closed in the same way
however its work has ended. -/
def step? (s : Scopes) : Step → Option Scopes
  | .set style => some (s.set style)
  | .reset => some s.reset
  | .enter style => some (s.enter style)
  | .leave _ => s.leave?

/-- The scopes after some steps. -/
def run? : Scopes → List Step → Option Scopes
  | s, [] => some s
  | s, step :: rest => (s.step? step).bind (run? · rest)

/-- Steps that close every scope that they open, and no other. -/
inductive WellBracketed : List Step → Prop
  | nil : WellBracketed []
  | set (style : Style) {rest : List Step} : WellBracketed rest → WellBracketed (.set style :: rest)
  | reset {rest : List Step} : WellBracketed rest → WellBracketed (.reset :: rest)
  | scope (style : Style) (ending : Ending) {body rest : List Step} :
    WellBracketed body → WellBracketed rest →
      WellBracketed (.enter style :: (body ++ .leave ending :: rest))

/-! ## Runs -/

lemma run?_append (s : Scopes) (steps rest : List Step) :
    s.run? (steps ++ rest) = (s.run? steps).bind (run? · rest) := by
  induction steps generalizing s with
  | nil => rfl
  | cons step steps ih =>
    rw [List.cons_append, run?, run?, Option.bind_assoc]
    exact Option.bind_congr fun s' _ => ih s'

lemma exists_run?_of_append {s u : Scopes} {steps rest : List Step}
    (h : s.run? (steps ++ rest) = some u) : ∃ s', s.run? steps = some s' := by
  rw [run?_append] at h
  obtain ⟨s', hs, -⟩ := Option.bind_eq_some_iff.1 h
  exact ⟨s', hs⟩

variable {steps body : List Step}

/-- A run may leave another style behind, but it keeps the styles that are to be returned to. -/
lemma WellBracketed.exists_run?_eq (h : WellBracketed steps) (s : Scopes) :
    ∃ style, s.run? steps = some ⟨style, s.saved⟩ := by
  induction h generalizing s with
  | nil => exact ⟨s.current, rfl⟩
  | set style _ ih => exact ih (s.set style)
  | reset _ ih => exact ih s.reset
  | scope style ending _ _ ihbody ihrest =>
    -- the body keeps the style that was saved on entering, so leaving brings it back
    obtain ⟨last, hbody⟩ := ihbody (s.enter style)
    obtain ⟨style', hrest⟩ := ihrest s
    refine ⟨style', ?_⟩
    rw [run?, step?, Option.bind_some, run?_append, hbody]
    exact hrest

/-- What is left was entered before, and what came in between is closed in itself. -/
lemma WellBracketed.exists_enter (h : WellBracketed steps) {before after : List Step}
    {ending : Ending} (hsteps : steps = before ++ .leave ending :: after) :
    ∃ opened style body, before = opened ++ .enter style :: body ∧ WellBracketed body := by
  induction h generalizing before after with
  | nil => simp at hsteps
  | set style _ ih =>
    obtain ⟨-, hleave⟩ | ⟨before', rfl, hrest⟩ := List.cons_eq_append_iff.1 hsteps
    · cases hleave
    · obtain ⟨opened, style', body, rfl, hbody⟩ := ih hrest
      exact ⟨.set style :: opened, style', body, rfl, hbody⟩
  | reset _ ih =>
    obtain ⟨-, hleave⟩ | ⟨before', rfl, hrest⟩ := List.cons_eq_append_iff.1 hsteps
    · cases hleave
    · obtain ⟨opened, style', body, rfl, hbody⟩ := ih hrest
      exact ⟨.reset :: opened, style', body, rfl, hbody⟩
  | @scope style ending' inner rest hinner _ ihinner ihrest =>
    obtain ⟨-, hleave⟩ | ⟨before', rfl, hrest⟩ := List.cons_eq_append_iff.1 hsteps
    · cases hleave
    · -- the step that leaves is in the scope, closes it, or comes after it
      obtain ⟨between, rfl, hafter⟩ | ⟨between, rfl, hafter⟩ := List.append_eq_append_iff.1 hrest
      · cases between with
        | nil => exact ⟨[], style, inner, by simp, hinner⟩
        | cons step between =>
          rw [List.cons_append, List.cons_eq_cons] at hafter
          obtain ⟨rfl, hrest'⟩ := hafter
          obtain ⟨opened, style', body, rfl, hbody⟩ := ihrest hrest'
          exact ⟨.enter style :: (inner ++ .leave ending' :: opened), style', body, by simp, hbody⟩
      · cases between with
        | nil => exact ⟨[], style, before', rfl, by simpa using hinner⟩
        | cons step between =>
          rw [List.cons_append, List.cons_eq_cons] at hafter
          obtain ⟨rfl, -⟩ := hafter
          obtain ⟨opened, style', body, rfl, hbody⟩ := ihinner rfl
          exact ⟨.enter style :: opened, style', body, rfl, hbody⟩

lemma run?_scope (h : WellBracketed body) (s : Scopes) (style : Style) (ending : Ending) :
    s.run? (.enter style :: (body ++ [.leave ending])) = some s := by
  obtain ⟨last, hbody⟩ := h.exists_run?_eq (s.enter style)
  rw [run?, step?, Option.bind_some, run?_append, hbody]
  rfl

end Scopes

/-! ## Operations with and without a style -/

namespace Edit

/-- The edit with a style given to it, or none.  Edits that depend on no style are kept. -/
def given (style? : Option Style) : Edit → Edit
  | .complete _ => .complete style?
  | .format _ => .format style?
  | .alterAlignment column value _ => .alterAlignment column value style?
  | .insertColumn index cells _ => .insertColumn index cells style?
  | .deleteColumn index _ => .deleteColumn index style?
  | .insertRow index row => .insertRow index row
  | .deleteRow index => .deleteRow index
  | .moveRow index dest => .moveRow index dest
  | .moveColumn index dest => .moveColumn index dest

lemma outcome_given_none (current : Style) (t : Table) (e : Edit) :
    (e.given none).outcome current t = (e.given (some current)).outcome current t := by
  cases e <;> rfl

lemma outcome_given_some (style current current' : Style) (t : Table) (e : Edit) :
    (e.given (some style)).outcome current t = (e.given (some style)).outcome current' t := by
  cases e <;> rfl

end Edit

/-- Reformatting hands its style on: it completes and formats as these do when they are given it. -/
lemma Table.map_tidy_eq (style current : Style) (t : Table) :
    (t.tidy style).map (·.table) =
      ((Edit.complete (some style)).apply current t >>=
        fun u => (Edit.format (some style)).apply current u) := by
  unfold tidy Edit.apply Edit.outcome
  simp only [Option.getD_some]
  cases t.complete style with
  | error fault => rfl
  | ok completed =>
    simp only [bind, Except.bind, Except.map, Edit.Outcome.ofCompleted]
    cases completed.table.format style <;> rfl

namespace Scopes

/-- When a scope is left, all is as it was before it was entered.  At every point of a run, the
current style stands in for the style that an operation is not given; and what an operation does
with a style that it is given, which reformatting hands on, does not depend on the current one. -/
theorem restores_and_stands_in {steps : List Step} (h : WellBracketed steps) (s : Scopes) :
    (∀ before ending after, steps = before ++ .leave ending :: after →
      ∃ opened style body, before = opened ++ .enter style :: body ∧ WellBracketed body) ∧
    (∀ before style body ending after,
      steps = before ++ .enter style :: (body ++ .leave ending :: after) → WellBracketed body →
      ∃ s', s.run? before = some s' ∧
        s.run? (before ++ .enter style :: (body ++ [.leave ending])) = some s') ∧
    (∀ before after, steps = before ++ after →
      ∃ s', s.run? before = some s' ∧ ∀ v : Session, v.scopes = s' →
        (∀ e : Edit, v.edit (e.given none) = v.edit (e.given (some s'.current))) ∧
        ∀ rule firstLine cursor?, v.reformat none rule firstLine cursor? =
          v.reformat (some s'.current) rule firstLine cursor?) ∧
    ∀ (style : Style) (v : Session) (s' : Scopes),
      (∀ e : Edit, ((v.withScopes s').edit (e.given (some style))).map (·.1) =
        (v.edit (e.given (some style))).map (·.1)) ∧
      (∀ rule firstLine cursor?,
        ((v.withScopes s').reformat (some style) rule firstLine cursor?).map (·.1) =
          (v.reformat (some style) rule firstLine cursor?).map (·.1)) ∧
      ∀ t : Table, (t.tidy style).map (·.table) =
        ((Edit.complete (some style)).apply s'.current t >>=
          fun u => (Edit.format (some style)).apply s'.current u) := by
  obtain ⟨last, hrun⟩ := h.exists_run?_eq s
  refine ⟨fun before ending after => h.exists_enter, ?_, ?_, ?_⟩
  · rintro before style body ending after rfl hbody
    obtain ⟨s', hs⟩ := exists_run?_of_append hrun
    refine ⟨s', hs, ?_⟩
    rw [run?_append, hs, Option.bind_some, run?_scope hbody]
  · rintro before after rfl
    obtain ⟨s', hs⟩ := exists_run?_of_append hrun
    refine ⟨s', hs, ?_⟩
    rintro v rfl
    refine ⟨fun e => ?_, fun rule firstLine cursor? => rfl⟩
    unfold Session.edit
    rw [Edit.outcome_given_none]
  · intro style v s'
    refine ⟨fun e => ?_, fun rule firstLine cursor? => ?_, Table.map_tidy_eq style s'.current⟩
    · unfold Session.edit
      rw [Edit.outcome_given_some style _ v.scopes.current, map_bind_eq, map_bind_eq]
      rfl
    · unfold Session.reformat
      rw [map_bind_eq, map_bind_eq]
      rfl

/-- A scope that ends in a fault after a reset, in a scope that goes on with another style. -/
theorem restores_and_stands_in_nested :
    ∃ s', initial.run? [.set { Style.standard with dashes := .int 5 }] = some s' ∧
      initial.run? [.set { Style.standard with dashes := .int 5 }, .enter .standard,
        .enter { Style.standard with dashes := .int 4 }, .reset, .leave (.raised "test".toList),
        .set { Style.standard with dashes := .int 7 }, .leave .normally] = some s' ∧
      s'.current.minDashes = 5 := by
  have hinner : WellBracketed [.enter { Style.standard with dashes := .int 4 }, .reset,
      .leave (.raised "test".toList), .set { Style.standard with dashes := .int 7 }] :=
    .scope _ _ (.reset .nil) (.set _ .nil)
  have h : WellBracketed [.set { Style.standard with dashes := .int 5 }, .enter .standard,
      .enter { Style.standard with dashes := .int 4 }, .reset, .leave (.raised "test".toList),
      .set { Style.standard with dashes := .int 7 }, .leave .normally] :=
    .set _ (.scope _ _ hinner .nil)
  obtain ⟨-, hrestores, -⟩ := restores_and_stands_in h initial
  obtain ⟨s', hs, hleft⟩ := hrestores [_] _ _ _ [] rfl hinner
  refine ⟨s', hs, hleft, ?_⟩
  cases hs
  rfl

end Scopes

end PipeTable
