import Router.Bindings
import Router.Session

namespace Router

/-! ## Scripts

Listeners with a plan: on each of its first few calls a planned listener carries
out a list of commands and then, if it is to, raises a failure. Afterwards it does
nothing. The commands of a plan are those of a client, so that a plan may
subscribe further listeners with plans of their own. -/

namespace Script

inductive Command where
  | move (move : Move)
  | isActive (target relative : String) (exact : Bool)
  | describe
  /-- Subscribes a listener and keeps the subscription under a handle. The plan counts
  only if the listener is new. -/
  | subscribe (listener : Listener) (handle : String)
      (times : Nat) (commands : List Command) (complaint : Option String)
  | unsubscribe (handle : String)

structure Plan where
  /-- On how many more calls to act. -/
  times : Nat
  commands : List Command
  complaint : Option String

/-- What listeners and clients of a script share. -/
structure Memory where
  plans : Bindings Listener Plan := {}
  handles : Bindings String Listener := {}

namespace Memory

/-- Keeps a listener under a handle, with its plan if the listener is new. -/
def enlist (listener : Listener) (handle : String) (plan : Plan) (memory : Memory) :
    Memory where
  plans := if memory.plans.contains listener then memory.plans
    else memory.plans.insert listener plan
  handles := memory.handles.insert handle listener

/-- Counts down the calls on which a listener is still to act. -/
def countDown (listener : Listener) (memory : Memory) : Memory :=
  match memory.plans.find? listener with
  | none => memory
  | some plan =>
      { memory with
        plans := memory.plans.insert listener { plan with times := plan.times - 1 } }

end Memory

def unlessFailed (next : Reaction Memory) : Option String → Reaction Memory
  | none => next
  | some message => .raise message

/-- Carries out a command and goes on. What a command answers is not listened to. -/
def react (next : Reaction Memory) : Command → Reaction Memory
  | .move move => .perform (.move move) (unlessFailed next)
  | .isActive _ _ _ => next
  | .describe => next
  | .subscribe listener handle times commands complaint =>
      .remember (Memory.enlist listener handle { times, commands, complaint })
        (.perform (.subscribe listener) (unlessFailed next))
  | .unsubscribe handle => .consult fun session =>
      match session.memory.handles.find? handle with
      | none => next
      | some listener => .perform (.unsubscribe listener) (unlessFailed next)

def Plan.reaction (plan : Plan) : Reaction Memory :=
  let last : Reaction Memory := match plan.complaint with
    | none => .finish
    | some message => .raise message
  plan.commands.foldr (fun command next => react next command) last

/-- A planned listener counts its call before it acts on it. -/
def behaviour : Behaviour Memory := fun listener _ => .consult fun session =>
  match session.memory.plans.find? listener with
  | none => .finish
  | some plan =>
      if plan.times = 0 then .finish
      else .remember (Memory.countDown listener) plan.reaction

/-! ### How deeply calls can nest

Each nested move is made by a listener acting on a call, and no listener acts on
more calls than its plan provides for. So the calls that all plans provide for
together bound the nesting. -/

mutual

def actingCalls : Command → Nat
  | .subscribe _ _ times commands _ => times + actingCallsIn commands
  | _ => 0

def actingCallsIn : List Command → Nat
  | [] => 0
  | command :: rest => actingCalls command + actingCallsIn rest

end

/-! ### Running a script -/

inductive Answer where
  | done
  | active (holds : Bool)
  | text (text : String)
  deriving DecidableEq, Repr

def answer (navigator : Navigator) : Command → Answer
  | .isActive target relative exact =>
      .active (navigator.isActive target relative exact)
  | .describe => .text navigator.describe
  | _ => .done

/-- What a client finds out by one command. -/
structure Report where
  result : Except String Answer
  navigator : Navigator
  events : List Event

def Report.records (report : Report) : List Record :=
  report.events.filterMap fun
    | .logged _ record => some record
    | _ => none

def report (command : Command) (run : Run Memory) : Report where
  result := match run.outcome.failure? with
    | some message => .error message
    | none => .ok (answer run.session.navigator command)
  navigator := run.session.navigator
  events := run.events

def run (navigator : Navigator) (commands : List Command) : List Report :=
  let depth := actingCallsIn commands + 1
  let runs := Session.play behaviour depth (commands.map (react .finish))
    { navigator, memory := {} }
  List.zipWith report commands runs

/-- The navigator after all reports of a script, which began with the given one. -/
def final (navigator : Navigator) (reports : List Report) : Navigator :=
  (reports.getLast?.map (·.navigator)).getD navigator

/-- A listener that goes back from inside its call undoes the navigation it hears of. -/
example : (run (.start "/" {})
    [.subscribe "guard" "first" 1 [.move (.back 1)] none,
     .move (.navigate "a" false),
     .move (.navigate "b" false)]).map (·.navigator.history) =
      [["/"], ["/"], ["/", "/b"]] := by decide +kernel

end Script

end Router
