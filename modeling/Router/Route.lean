import Router.Matcher

namespace Router

/-! ## Routes

A route pairs a glob with a validator, which sees a match and either makes
content of it or turns it down. A route without a validator takes the match itself
for its content. -/

/-- What a route makes of a match. -/
inductive Content (Value : Type) where
  | info (info : RouteInfo)
  | value (value : Value)
  deriving DecidableEq, Repr

/-- A check on matches. Two validators are the same when their labels are. -/
structure Validator (Failure Value : Type) where
  label : Nat
  /-- The content made of a match, or nothing if the match is turned down. -/
  check : RouteInfo → Except Failure (Option (Content Value))

structure Route (Failure Value : Type) where
  /-- The glob of a route matches every path unless another one is given. -/
  glob : String := "*"
  validator : Option (Validator Failure Value) := none

inductive RouteFailure (Failure : Type) where
  | glob (error : GlobError)
  | validator (failure : Failure)
  deriving DecidableEq, Repr

namespace Route

variable {Failure Value : Type}

/-- Whether two routes have the same glob and the same validator. -/
def agrees (left right : Route Failure Value) : Bool :=
  left.glob == right.glob &&
    left.validator.map (·.label) == right.validator.map (·.label)

structure Visit (Failure Answer : Type) where
  result : Except (RouteFailure Failure) Answer
  matcher : Matcher
  /-- The labels of the validators called, in the order of the calls. -/
  consulted : List Nat := []
  records : List Record := []

def matchPath (route : Route Failure Value) (matcher : Matcher)
    (path relative : String) : Visit Failure (Option RouteInfo) :=
  let reply := matcher.matchPath route.glob path relative
  { result := reply.result.mapError .glob
    matcher := reply.matcher
    records := reply.records }

def resolve (route : Route Failure Value) (matcher : Matcher)
    (path relative : String) : Visit Failure (Option (Content Value)) :=
  let visit := route.matchPath matcher path relative
  match visit.result, route.validator with
  | .error failure, _ => { visit with result := .error failure }
  | .ok none, _ => { visit with result := .ok none }
  | .ok (some info), none => { visit with result := .ok (some (.info info)) }
  | .ok (some info), some validator =>
      { visit with
        result := (validator.check info).mapError .validator
        consulted := [validator.label] }

/-! ### The first route that applies -/

structure Selection (Key Failure Answer : Type) where
  result : Except (RouteFailure Failure) Answer
  matchers : Matchers Key
  consulted : List Nat := []
  records : List Record := []

variable {Key : Type} [DecidableEq Key]

/-- The first route with content for the path, together with that content. Later
routes are not looked at, and a failure ends the search. -/
def firstMatch (path relative : String) : Matchers Key →
    List (Key × Route Failure Value) →
    Selection Key Failure (Option (Key × Content Value))
  | matchers, [] => { result := .ok none, matchers }
  | matchers, (key, route) :: rest =>
      let visit := route.resolve (matchers.get key) path relative
      let matchers := matchers.insert key visit.matcher
      match visit.result with
      | .error failure =>
          { result := .error failure, matchers
            consulted := visit.consulted, records := visit.records }
      | .ok (some content) =>
          { result := .ok (some (key, content)), matchers
            consulted := visit.consulted, records := visit.records }
      | .ok none =>
          let later := firstMatch path relative matchers rest
          { later with
            consulted := visit.consulted ++ later.consulted
            records := visit.records ++ later.records }

/-- The first route matches but its validator turns the match down. -/
example : (firstMatch "/b" "/" ({} : Matchers Nat)
    [(0, { glob := "/:id"
           validator := some { label := 7, check := fun _ => .ok none } }),
     (1, ({} : Route Empty Empty))]).consulted = [7] := by decide +kernel

end Route

end Router
