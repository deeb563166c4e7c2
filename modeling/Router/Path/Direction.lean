import Router.Path

namespace Router

/-! ## Directions

Where a move between two paths leads in the hierarchy of paths. -/

inductive Direction where
  /-- Below the path that was left. -/
  | deeper
  /-- To another path of the same depth with the same parent. -/
  | sideways
  /-- Up, or to an unrelated path. -/
  | higher
  deriving DecidableEq, Repr

namespace Direction

/-- Whether `current` is longer than `previous` and continues it behind a slash.
Every longer text lies below the root. -/
def extendsPath (previous current : String) : Bool :=
  previous.length < current.length &&
    ((previous ++ "/").toList.isPrefixOf current.toList || previous == "/")

/-- Classifies the move from `previous` to `current`. -/
def between (previous current : String) : Direction :=
  if extendsPath previous current then .deeper
  else
    let before := Path.segments previous
    let after := Path.segments current
    if after.length = before.length ∧ after.dropLast = before.dropLast then .sideways
    else .higher

def name : Direction → String
  | .deeper => "deeper"
  | .sideways => "sideways"
  | .higher => "higher"

example : between "/movies/actors" "/movies/genres" = .sideways := by decide +kernel

end Direction

end Router
