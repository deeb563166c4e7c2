import Router.Route

namespace Router

/-! ## Route tables

Routes by position, each with a matcher of its own that remembers its glob from
one query to the next. -/

structure RouteTable (Failure Value : Type) where
  routes : List (Route Failure Value)
  matchers : Matchers Nat := {}

namespace RouteTable

variable {Failure Value : Type}

inductive Query where
  /-- Matches the glob of one route. -/
  | matchPath (position : Nat) (path relative : String)
  /-- Resolves one route. -/
  | resolve (position : Nat) (path relative : String)
  /-- Searches the routes at these positions, or all of them, for the first that
  applies. -/
  | first (order : Option (List Nat)) (path relative : String)
  | agree (left right : Nat)
  deriving DecidableEq, Repr

inductive Answer (Value : Type) where
  | info (info : Option RouteInfo)
  | content (content : Option (Content Value))
  | hit (hit : Option (Nat × Content Value))
  | agree (same : Bool)
  deriving DecidableEq, Repr

abbrev Response (Failure Value : Type) :=
  Route.Selection Nat Failure (Answer Value)

/-- The routes at the given positions. A position without a route adds nothing. -/
def select (table : RouteTable Failure Value) (positions : List Nat) :
    List (Nat × Route Failure Value) :=
  positions.filterMap fun position =>
    table.routes[position]?.map fun route => (position, route)

def labelled (table : RouteTable Failure Value) : List (Nat × Route Failure Value) :=
  table.select (List.range table.routes.length)

/-- Records in the table what one route made of its matcher. -/
def settle {Found : Type} (table : RouteTable Failure Value) (position : Nat)
    (answer : Option Found → Answer Value)
    (visit : Option (Route.Visit Failure (Option Found))) : Response Failure Value :=
  match visit with
  | none => { result := .ok (answer none), matchers := table.matchers }
  | some visit =>
      { result := visit.result.map answer
        matchers := table.matchers.insert position visit.matcher
        consulted := visit.consulted
        records := visit.records }

def ask (table : RouteTable Failure Value) : Query → Response Failure Value
  | .matchPath position path relative =>
      table.settle position .info <| table.routes[position]?.map fun route =>
        route.matchPath (table.matchers.get position) path relative
  | .resolve position path relative =>
      table.settle position .content <| table.routes[position]?.map fun route =>
        route.resolve (table.matchers.get position) path relative
  | .first order path relative =>
      let routes := (order.map table.select).getD table.labelled
      let selection := Route.firstMatch path relative table.matchers routes
      { selection with result := selection.result.map .hit }
  | .agree left right =>
      let same := match table.routes[left]?, table.routes[right]? with
        | some left, some right => left.agrees right
        | _, _ => false
      { result := .ok (.agree same), matchers := table.matchers }

/-- Answers queries one after the other. -/
def askAll : RouteTable Failure Value → List Query → List (Response Failure Value)
  | _, [] => []
  | table, query :: rest =>
      let response := table.ask query
      response :: askAll { table with matchers := response.matchers } rest

end RouteTable

end Router
