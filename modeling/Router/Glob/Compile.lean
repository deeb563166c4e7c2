import Router.Glob
import Router.Glob.Error

namespace Router.Glob

/-! ## Compiling globs

A glob compiles when the name of each parameter is a letter followed by letters
and digits, and no name is declared twice. Letters and digits are those of ASCII.
Otherwise the leftmost parameter at fault is reported; a malformed name counts as
malformed even when it is also repeated. -/

/-- The first character that may not stand where it does in a parameter name. -/
def misplaced? : List Char → Option Char
  | [] => none
  | first :: rest =>
      if first.isAlpha then rest.find? (!·.isAlphanum) else some first

/-- Why a name cannot be declared after the names already `seen`, as the culprit
to report. -/
def culprit? (seen : List String) (name : String) : Option String :=
  if name = "" then some ""
  else match misplaced? name.toList with
    | some character => some (String.singleton character)
    | none => if name ∈ seen then some "" else none

/-- The leftmost name that cannot be declared, with its culprit. -/
def fault? (seen : List String) : List String → Option (String × String)
  | [] => none
  | name :: rest =>
      match culprit? seen name with
      | some culprit => some (name, culprit)
      | none => fault? (name :: seen) rest

example : fault? [] ["a", "a-", "1"] = some ("a-", "-") := by decide +kernel

example : fault? [] ["id", "ID", "id"] = some ("id", "") := by decide +kernel

def compile (source : String) : Except GlobError Glob :=
  let glob := read source
  match fault? [] (declaredNames glob.segments) with
  | some (parameter, culprit) => .error { glob := source, parameter, culprit }
  | none => .ok glob

end Router.Glob
