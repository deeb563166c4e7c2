import Router.Matcher
import Router.Navigator

namespace Router.Scope

/-! ## Scopes

A routed program runs in surroundings: the navigator of the router around it, if
there is one, and the base against which relative globs and links are read. Each is a
variable of its own. Opening a scope sets one of them or both; leaving it, in whatever
way, resets what was set. -/

structure Surroundings where
  /-- The name of the navigator of the router around the program. -/
  navigator : Option String := none
  base : String := "/"
  deriving DecidableEq, Repr

/-- Why a program breaks off. -/
inductive Failure where
  /-- The program asked for the navigator outside of every router. -/
  | noNavigator
  | glob (error : GlobError)
  | raised (message : String)
  deriving DecidableEq, Repr

inductive Act where
  | getBase
  | getNavigator
  /-- Sends the navigator to a path read from the base. -/
  | redirect (target : String) (replace : Bool)
  | move (move : Move)
  | isActive (target : String) (exact : Bool)
  /-- Matches the path of the navigator against a glob read from the base. -/
  | route (glob : String)
  | raise (message : String)
  deriving DecidableEq, Repr

inductive Answer where
  | done
  | base (base : String)
  | navigator (name : String)
  | active (holds : Bool)
  | info (info : Option RouteInfo)
  deriving DecidableEq, Repr

/-! ### The world of a program -/

structure World where
  navigators : Bindings String Navigator
  surroundings : Surroundings := {}
  /-- What navigators reported since the program last did. -/
  pending : List Record := []
  deriving DecidableEq, Repr

/-- What a variable held before it was set. -/
structure Token (Value : Type) where
  former : Value

namespace World

/-! Setting a variable hands out a token, and resetting the variable with this token puts
back what it held before, whatever was written to it meanwhile. -/

def setNavigator (world : World) (name : String) : Token (Option String) × World :=
  let surroundings := { world.surroundings with navigator := some name }
  (⟨world.surroundings.navigator⟩, { world with surroundings })

def resetNavigator (world : World) (token : Token (Option String)) : World :=
  { world with surroundings := { world.surroundings with navigator := token.former } }

def setBase (world : World) (base : String) : Token String × World :=
  let surroundings := { world.surroundings with base }
  (⟨world.surroundings.base⟩, { world with surroundings })

def resetBase (world : World) (token : Token String) : World :=
  { world with surroundings := { world.surroundings with base := token.former } }

def navigator? (world : World) : Option (String × Navigator) := do
  let name ← world.surroundings.navigator
  let navigator ← world.navigators.find? name
  return (name, navigator)

def current (world : World) : Except Failure (String × Navigator) :=
  match world.navigator? with
  | none => .error .noNavigator
  | some found => .ok found

def move (world : World) (move : Move) : Except Failure World := do
  let (name, navigator) ← world.current
  let step := navigator.apply move
  return {
    world with
    navigators := world.navigators.insert name step.navigator
    pending := world.pending ++ step.records }

def redirect (world : World) (target : String) (replace : Bool) : Except Failure World :=
  world.move (.navigate (Path.resolve world.surroundings.base target) replace)

/-- Matches the path of the navigator against a glob, with a matcher of its own. -/
def matchPath (world : World) (glob : String) : Except Failure (Option RouteInfo) := do
  let (_, navigator) ← world.current
  let matcher : Matcher := {}
  (matcher.matchPath glob navigator.path world.surroundings.base).result.mapError .glob

def perform (world : World) : Act → Except Failure (Answer × World)
  | .getBase => .ok (.base world.surroundings.base, world)
  | .getNavigator => do
      let (name, _) ← world.current
      return (.navigator name, world)
  | .redirect target replace => return (.done, ← world.redirect target replace)
  | .move move => return (.done, ← world.move move)
  | .isActive target exact => do
      let (_, navigator) ← world.current
      return (.active (navigator.isActive target world.surroundings.base exact), world)
  | .route glob => return (.info (← world.matchPath glob), world)
  | .raise message => .error (.raised message)

end World

/-! ### Reports -/

inductive Occurrence where
  /-- A router was opened around the navigator of this name. -/
  | enteredRouter (navigator : String)
  | leftRouter
  /-- A matched route was entered, which narrows the base. -/
  | enteredRoute (base : String) (info : RouteInfo)
  | leftRoute
  /-- A route did not match, and its body was skipped. -/
  | skippedRoute
  | attempted
  | caught (failure : Failure)
  | acted (act : Act) (answer : Answer)
  deriving DecidableEq, Repr

/-- Something that happened, with the world as it was right after it. -/
structure Report where
  occurrence : Occurrence
  base : String
  navigator : Option (String × Navigator)
  /-- What navigators reported since the last report. -/
  records : List Record
  deriving DecidableEq, Repr

/-- How a program ended, how it left things, and what happened until then. -/
structure Run (State : Type) where
  failure : Option Failure := none
  state : State
  reports : List Report := []

namespace Run

variable {State : Type}

def report (occurrence : Occurrence) (world : World) : Run World where
  state := { world with pending := [] }
  reports :=
    [{ occurrence
       base := world.surroundings.base
       navigator := world.navigator?
       records := world.pending }]

/-- Goes on with another program whatever the failure of the first, which counts as
the failure of both. -/
def followedBy (run : Run State) (next : State → Run State) : Run State :=
  let later := next run.state
  { later with
    failure := run.failure.or later.failure
    reports := run.reports ++ later.reports }

def andThen (run : Run State) (next : State → Run State) : Run State :=
  match run.failure with
  | some _ => run
  | none => run.followedBy next

/-- Reports how the run ended and goes on with a handler if it ended in a failure that is
caught. Any other failure ends this run as well. -/
def rescued (run : Run State) (catches : Failure → Bool)
    (report : Occurrence → State → Run State) (handler : State → Run State) : Run State :=
  match run.failure with
  | none => run.followedBy (report .attempted)
  | some failure =>
      if catches failure then
        ({ run with failure := none }.followedBy (report (.caught failure))).andThen handler
      else run

end Run

end Router.Scope
