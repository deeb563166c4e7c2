import Router.Path.Direction

namespace Router

/-! ## Actions

A navigation as it is remembered and announced: of what kind it was, where it led
from and to, and how these two paths lie to each other. -/

inductive ActionKind where
  | push
  | back
  | forward
  deriving DecidableEq, Repr

def ActionKind.name : ActionKind → String
  | .push => "push"
  | .back => "back"
  | .forward => "forward"

structure Action where
  kind : ActionKind
  previous : String
  current : String
  direction : Direction
  deriving DecidableEq, Repr

/-- The action of this kind between two paths. -/
def Action.between (previous current : String) (kind : ActionKind) : Action where
  kind
  previous
  current
  direction := .between previous current

end Router
