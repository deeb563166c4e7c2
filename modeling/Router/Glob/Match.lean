import Router.Bindings
import Router.Glob
import Router.Text.Quoted

namespace Router

/-! ## Matching paths

Matching walks the segments of a glob and the parts of a path side by side, once.
The parts consumed on the way name the place a route occupies; what a wildcard
leaves over is the business of nested routes. -/

/-- The captured part of each parameter that is present, in order of capture. -/
abbrev Parameters := Bindings String String

/-- The parameters as one line of text, names and parts quoted. -/
def Parameters.describe (parameters : Parameters) : String :=
  let entries := parameters.toList.map fun entry =>
    Text.quoted entry.1 ++ ": " ++ Text.quoted entry.2
  "RouteParameters(\x7b" ++ ", ".intercalate entries ++ "\x7d)"

structure RouteInfo where
  matchedPath : String
  parameters : Parameters := {}
  deriving DecidableEq, Repr

/-- Whether two matches consumed the same prefix and captured the same parts,
whatever the order of capture. -/
def RouteInfo.agrees (left right : RouteInfo) : Bool :=
  left.matchedPath == right.matchedPath && left.parameters.agrees right.parameters

/-- Whether two attempts at a match came to the same. Two failed attempts did. -/
def RouteInfo.sameOutcome : Option RouteInfo → Option RouteInfo → Bool
  | none, none => true
  | some left, some right => left.agrees right
  | _, _ => false

namespace Glob

/-- The consumed parts of a path, and the parameters that captured one. -/
structure Capture where
  consumed : List String := []
  captured : List (String × String) := []
  deriving DecidableEq, Repr

namespace Capture

def consume (part : String) (capture : Capture) : Capture :=
  { capture with consumed := part :: capture.consumed }

def bind (name part : String) (capture : Capture) : Capture where
  consumed := part :: capture.consumed
  captured := (name, part) :: capture.captured

def info (capture : Capture) : RouteInfo where
  matchedPath := Path.ofSegments capture.consumed
  parameters := Bindings.ofList capture.captured

end Capture

/-- Matches segments against parts. Once the parts are used up only optional
parameters may remain, and no parameter captures an empty part. -/
def matchParts? (wildcard : Bool) : List Segment → List String → Option Capture
  | [], parts => if parts = [] ∨ wildcard then some {} else none
  | segment :: segments, [] =>
      if segment.isOptional then matchParts? wildcard segments [] else none
  | .literal text :: segments, part :: parts =>
      if part = text then (matchParts? wildcard segments parts).map (.consume part)
      else none
  | .parameter name _ :: segments, part :: parts =>
      if part = "" then none
      else (matchParts? wildcard segments parts).map (.bind name part)

def matchPath? (glob : Glob) (path : String) : Option RouteInfo :=
  (matchParts? glob.wildcard glob.segments (Path.parts path)).map Capture.info

example : (read "/user/:id/*").matchPath? "/user/5/settings" =
    some ⟨"/user/5", .ofList [("id", "5")]⟩ := by decide +kernel

end Glob

end Router
