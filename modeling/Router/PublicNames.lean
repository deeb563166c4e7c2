import Router.Text.Quoted

namespace Router.PublicNames

/-! ## Public names

The names a client may look up, and the module that defines each. -/

def version : String := "0.1.0"

/-- The defining module of each public name, the names in their published order. -/
def table : List (String × String) :=
  [("Action", "wren.navigation.action"),
   ("CompiledGlob", "wren.routing.glob"),
   ("ConfigurationError", "wren.errors"),
   ("Direction", "wren.navigation.action"),
   ("NavigationAction", "wren.navigation.action"),
   ("Navigator", "wren.navigation.navigator"),
   ("PathMatcher", "wren.routing.matcher"),
   ("PatternCompileError", "wren.errors"),
   ("Route", "wren.routing.guard"),
   ("RouteInfo", "wren.routing.route"),
   ("RouteParameters", "wren.routing.route"),
   ("RouterConfig", "wren.config"),
   ("WrenError", "wren.errors"),
   ("classify_direction", "wren.navigation.action"),
   ("first_match", "wren.routing.guard"),
   ("get_navigator", "wren.context"),
   ("normalize_path", "wren.paths"),
   ("parse_glob", "wren.routing.glob"),
   ("redirect", "wren.context"),
   ("resolve", "wren.paths"),
   ("router_scope", "wren.context")]

def names : List String :=
  table.map (·.1)

/-- A name that is not public. -/
structure UnknownName where
  name : String
  deriving DecidableEq, Repr

def UnknownName.message (unknown : UnknownName) : String :=
  "module 'wren' has no attribute " ++ Text.quoted unknown.name

def definingModule (name : String) : Except UnknownName String :=
  match table.lookup name with
  | some defining => .ok defining
  | none => .error { name }

example : names.length = 21 ∧ names.Nodup := by decide +kernel

end Router.PublicNames
