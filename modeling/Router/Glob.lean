import Router.Path

namespace Router

/-! ## Route globs

A route glob describes paths segment by segment. A segment is a literal text or a
parameter, which captures one part of a path and may be optional. A wildcard at
the end admits any further parts without consuming them. -/

namespace Glob

inductive Segment where
  | literal (text : String)
  | parameter (name : String) (optional : Bool)
  deriving DecidableEq, Repr

namespace Segment

def value : Segment → String
  | .literal text => text
  | .parameter name optional => ":" ++ name ++ if optional then "?" else ""

def isParameter : Segment → Bool
  | .literal _ => false
  | .parameter _ _ => true

def isOptional : Segment → Bool
  | .literal _ => false
  | .parameter _ optional => optional

def name? : Segment → Option String
  | .literal _ => none
  | .parameter name _ => some name

/-- Reads what stands between two slashes of a glob. A colon opens a parameter
and a question mark at its end makes it optional. -/
def ofPiece (piece : String) : Segment :=
  match piece.toList with
  | ':' :: declaration =>
      if declaration.getLast? = some '?' then
        .parameter (String.ofList declaration.dropLast) true
      else .parameter (String.ofList declaration) false
  | _ => .literal piece

example : ofPiece ":id??" = .parameter "id?" true := by decide +kernel

end Segment

end Glob

structure Glob where
  source : String
  segments : List Glob.Segment
  /-- Whether further parts may follow the last segment. -/
  wildcard : Bool
  deriving DecidableEq, Repr

namespace Glob

def declaredNames (segments : List Segment) : List String :=
  segments.filterMap Segment.name?

/-- The set of parameter names, in ascending order. -/
def parameterNames (glob : Glob) : List String :=
  (declaredNames glob.segments).eraseDups.mergeSort

/-- Takes a text apart without looking at the parameter names. -/
def read (source : String) : Glob :=
  let wildcard := source.toList.getLast? == some '*'
  let body := if wildcard then String.ofList source.toList.dropLast else source
  { source
    segments := ((Path.pieces body).filter (· ≠ "")).map Segment.ofPiece
    wildcard }

/-- Writes each segment between slashes, with the asterisk of a wildcard last. -/
def write (segments : List Segment) (wildcard : Bool) : String :=
  "/" ++ String.join (segments.map fun segment => segment.value ++ "/") ++
    if wildcard then "*" else ""

example : read "/user/:id?/*" =
    ⟨"/user/:id?/*", [.literal "user", .parameter "id" true], true⟩ := by decide +kernel

example : write [.literal "user", .parameter "id" true] true = "/user/:id?/*" := by
  decide +kernel

end Glob

end Router
