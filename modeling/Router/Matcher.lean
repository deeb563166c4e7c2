import Router.Glob.Compile
import Router.Glob.Match
import Router.Record

namespace Router

/-! ## Matchers

A matcher belongs to one place in a program, where the glob is nearly always the
same text. It keeps the glob it compiled last and compiles again only when the
text changes. -/

structure Matcher where
  cached : Option Glob := none
  /-- How many globs were compiled into the slot so far. A slot whose count has not
  moved still holds the very glob it held before. -/
  compilations : Nat := 0
  deriving DecidableEq, Repr

namespace Matcher

structure Reply (Answer : Type) where
  result : Except GlobError Answer
  matcher : Matcher
  records : List Record := []

/-- Compiles a glob into the slot. A glob that does not compile leaves the slot
as it was and is not reported as a recompilation. -/
def refill (matcher : Matcher) (source : String) (records : List Record) : Reply Glob :=
  match Glob.compile source with
  | .error error => { result := .error error, matcher }
  | .ok glob =>
      { result := .ok glob
        matcher := { cached := some glob, compilations := matcher.compilations + 1 }
        records }

/-- The compiled form of a glob, from the slot if it is there. -/
def compile (matcher : Matcher) (source : String) : Reply Glob :=
  match matcher.cached with
  | none => matcher.refill source []
  | some glob =>
      if glob.source = source then { result := .ok glob, matcher }
      else matcher.refill source [.recompiled source glob.source]

/-- The second compilation replaces the first, and says so. -/
example : ((Matcher.compile {} "/a").matcher.compile "/b").records =
    [.recompiled "/b" "/a"] := by decide +kernel

example : ((Matcher.compile {} "/a").matcher.compile "/a").matcher.compilations = 1 := by
  decide +kernel

def matchPath (matcher : Matcher) (source path relative : String) :
    Reply (Option RouteInfo) :=
  let reply := matcher.compile (Path.resolve relative source)
  { reply with result := reply.result.map (·.matchPath? path) }

/-! ### Many matchers

A program has a matcher for each of many places. They are kept by key; a key that
was never used stands for a matcher that has compiled nothing. -/

inductive Request where
  | compile (source : String)
  | matchPath (source path relative : String)
  deriving DecidableEq, Repr

inductive Answer where
  | glob (glob : Glob)
  | info (info : Option RouteInfo)
  deriving DecidableEq, Repr

def serve (matcher : Matcher) : Request → Reply Answer
  | .compile source =>
      let reply := matcher.compile source
      { reply with result := reply.result.map .glob }
  | .matchPath source path relative =>
      let reply := matcher.matchPath source path relative
      { reply with result := reply.result.map .info }

end Matcher

abbrev Matchers (Key : Type) := Bindings Key Matcher

namespace Matchers

variable {Key : Type} [DecidableEq Key]

def get (matchers : Matchers Key) (key : Key) : Matcher :=
  (matchers.find? key).getD {}

/-- The reply to one request, with the matcher that served it as it was before. -/
structure Service where
  before : Matcher
  reply : Matcher.Reply Matcher.Answer

/-- Whether the slot still holds what it held before the request. -/
def Service.reused (service : Service) : Bool :=
  service.reply.matcher.compilations == service.before.compilations

def serve (matchers : Matchers Key) (key : Key) (request : Matcher.Request) : Service :=
  let before := matchers.get key
  { before, reply := before.serve request }

def serveAll : Matchers Key → List (Key × Matcher.Request) → List Service
  | _, [] => []
  | matchers, (key, request) :: rest =>
      let service := matchers.serve key request
      service :: serveAll (matchers.insert key service.reply.matcher) rest

end Matchers

end Router
