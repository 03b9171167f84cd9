import PipeTable.Setting.Style

/-!
# Scopes

A host works with one current style, which stands in wherever an operation is given none. A scope
can be opened around some work with a style of its own; when it closes, the style that was current
before is current again, whatever was set in between.
-/

namespace PipeTable

/-- The current style and, innermost first, the styles to return to. -/
structure Scopes where
  current : Style
  saved : List Style
  deriving Inhabited

namespace Scopes

/-- The state before anything is set. -/
def initial : Scopes := ⟨.standard, []⟩

/-- Makes a style the current one. -/
def set (style : Style) (s : Scopes) : Scopes := { s with current := style }

/-- Makes the standard style the current one. -/
def reset (s : Scopes) : Scopes := s.set .standard

/-- Opens a scope with a style. -/
def enter (style : Style) (s : Scopes) : Scopes := ⟨style, s.current :: s.saved⟩

/-- Closes the innermost scope, if one is open. -/
def leave? (s : Scopes) : Option Scopes :=
  match s.saved with
  | [] => none
  | style :: rest => some ⟨style, rest⟩

/-- The style of an operation: the one it is given, or the current one. -/
def styleOr (s : Scopes) (given : Option Style) : Style := given.getD s.current

/-- Closing a scope right after it was opened undoes the opening. -/
@[simp] theorem leave?_enter (style : Style) (s : Scopes) : (s.enter style).leave? = some s := rfl

end Scopes

end PipeTable
