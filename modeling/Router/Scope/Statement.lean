import Router.Scope

namespace Router.Scope

/-! ## Routed programs

Programs that open scopes inside scopes. There is one place for each variable of the
surroundings. A scope sets what it is about on entry and resets it on exit, also when
its body breaks off; what it did not set is none of its business. -/

inductive Statement where
  | router (navigator base : String) (body : List Statement)
  /-- Enters a route if the path of the navigator matches its glob. -/
  | route (glob : String) (body : List Statement)
  /-- Enters a route known to have matched. -/
  | enter (info : RouteInfo) (body : List Statement)
  /-- Keeps those failures of the body to itself that it catches, and goes on with the
  handler after one of them. -/
  | rescue (body : List Statement) (catches : Failure → Bool) (handler : List Statement)
  | act (act : Act)

/-- Keeps every failure of the body to itself. -/
def Statement.attempt (body : List Statement) : Statement :=
  .rescue body (fun _ => true) []

namespace World

/-- Runs a body inside a router. The variable that was set last is reset first. -/
def withinRouter (world : World) (navigator base : String) (body : World → Run World) :
    Run World :=
  let (navigatorToken, world) := world.setNavigator navigator
  let (baseToken, world) := world.setBase (Path.normalize [base])
  (Run.report (.enteredRouter navigator) world).followedBy fun inside =>
    (body inside).followedBy fun outside =>
      Run.report .leftRouter ((outside.resetBase baseToken).resetNavigator navigatorToken)

/-- Runs a body inside a matched route, whose matched path becomes the base as it
stands. The navigator is left alone. -/
def withinRoute (world : World) (info : RouteInfo) (body : World → Run World) :
    Run World :=
  let (token, world) := world.setBase info.matchedPath
  (Run.report (.enteredRoute info.matchedPath info) world).followedBy fun inside =>
    (body inside).followedBy fun outside => Run.report .leftRoute (outside.resetBase token)

end World

mutual

def Statement.run : Statement → World → Run World
  | .router navigator base body, world => world.withinRouter navigator base (runAll body)
  | .route glob body, world =>
      match world.matchPath glob with
      | .error failure => { failure := some failure, state := world }
      | .ok none => Run.report .skippedRoute world
      | .ok (some info) => world.withinRoute info (runAll body)
  | .enter info body, world => world.withinRoute info (runAll body)
  | .rescue body catches handler, world =>
      (runAll body world).rescued catches Run.report (runAll handler)
  | .act act, world =>
      match world.perform act with
      | .error failure => { failure := some failure, state := world }
      | .ok (answer, world) => Run.report (.acted act answer) world

def runAll : List Statement → World → Run World
  | [], world => { state := world }
  | statement :: rest, world => (statement.run world).andThen (runAll rest)

end

def run (navigators : Bindings String Navigator) (program : List Statement) :
    Run World :=
  runAll program { navigators }

/-- All navigators at the end of a run, in the order of their names. -/
def Run.census (run : Run World) : List (String × Navigator) :=
  run.state.navigators.toList.mergeSort fun left right => left.1 ≤ right.1

/-- A failure inside of scopes leaves the surroundings as they were outside. -/
example : ((run (.ofList [("main", .start "/news/3" {})])
    [.attempt [.router "main" "/" [.route "news/*" [.act (.raise "lost")]]],
     .act .getBase]).reports.map (·.base)) =
      ["/", "/news", "/", "/", "/", "/"] := by decide +kernel

end Router.Scope
