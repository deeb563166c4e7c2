import Router.Text.Quoted

namespace Router

/-! ## Glob errors

A route glob with an invalid parameter is a mistake in the program that declares
it, as opposed to a path that merely matches nothing. -/

/-- A parameter that a route glob may not declare. -/
structure GlobError where
  /-- The whole glob. -/
  glob : String
  /-- The name of the parameter at fault. -/
  parameter : String
  /-- The first character the name may not hold, or empty if the name is empty or
  was declared before. -/
  culprit : String := ""
  deriving DecidableEq, Repr

def GlobError.message (error : GlobError) : String :=
  if error.parameter = "" then
    "Empty parameter name in route glob " ++ Text.quoted error.glob
  else if error.culprit = "" then
    "Duplicate parameter name " ++ Text.quoted error.parameter ++
      " in route glob " ++ Text.quoted error.glob
  else
    "Bad parameter name " ++ Text.quoted error.parameter ++
      " in route glob " ++ Text.quoted error.glob ++
      ": unexpected character " ++ Text.quoted error.culprit

example : (GlobError.mk "/a/:b-" "b-" "-").message =
    "Bad parameter name 'b-' in route glob '/a/:b-': unexpected character '-'" := by
  decide +kernel

end Router
