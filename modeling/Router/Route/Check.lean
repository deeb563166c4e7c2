import Router.Route

namespace Router

/-! ## Checks on parameters

The checks that most routes need: a parameter as text or as a number, a fallback
for a parameter that may be absent, content that does not depend on the match. -/

inductive CheckFailure where
  /-- The match has no such parameter. -/
  | missing (parameter : String)
  | rejected (message : String)
  deriving DecidableEq, Repr

abbrev Check (Value : Type) :=
  RouteInfo → Except CheckFailure (Option (Content Value))

namespace Check

variable {Value : Type}

/-- The number a text denotes, if it is made of ASCII digits only. -/
def natural? (text : String) : Option Nat :=
  let digits := text.toList
  if digits ≠ [] ∧ digits.all Char.isDigit then
    some (digits.foldl (fun number digit => 10 * number + (digit.toNat - '0'.toNat)) 0)
  else none

example : natural? "0042" = some 42 ∧ natural? "4_2" = none := by decide +kernel

/-- Requires a parameter and makes of it what `convert` does. -/
def parameter (name : String) (convert : String → Option Value) : Check Value :=
  fun info =>
    match info.parameters.find? name with
    | none => .error (.missing name)
    | some part => .ok ((convert part).map .value)

def text (name : String) (value : String → Value) : Check Value :=
  parameter name fun part => some (value part)

/-- Turns down a match whose parameter is no number. -/
def number (name : String) (value : Nat → Value) : Check Value :=
  parameter name fun part => (natural? part).map value

def textOr (name : String) (value : String → Value) (fallback : Option Value) :
    Check Value :=
  fun info =>
    match info.parameters.find? name with
    | none => .ok (fallback.map .value)
    | some part => .ok (some (.value (value part)))

def constant (value : Option Value) : Check Value :=
  fun _ => .ok (value.map .value)

def whole : Check Value :=
  fun info => .ok (some (.info info))

def reject (message : String) : Check Value :=
  fun _ => .error (.rejected message)

end Check

end Router
