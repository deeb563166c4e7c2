import Router.Navigator

namespace Router

/-! ## Sessions

Listeners subscribe to a navigator and are called after each of its moves. While a
listener is being called it may move the navigator again, subscribe and
unsubscribe, look at the session, and raise a failure, which travels up through
the moves that led to the call.

Listeners share a memory, whose type is left open. -/

/-- A listener is an object of its own, known by its name. It compares equal to every
object that it is like, for instance to a copy of it. -/
structure Listener where
  name : String
  likeness : String := name
  deriving DecidableEq, Repr

/-- A name alone stands for a listener that is like no other. -/
instance : Coe String Listener where
  coe name := { name }

/-- A listener is shown by its name. -/
instance : Coe Listener String where
  coe := Listener.name

def Listener.equals (listener other : Listener) : Bool :=
  listener.likeness == other.likeness

structure Session (Memory : Type) where
  navigator : Navigator
  /-- The listeners to call, in order of subscription. One listener may be
  subscribed more than once. -/
  subscribers : List Listener := []
  memory : Memory
  begun : Nat := 0

inductive Operation where
  | move (move : Move)
  | subscribe (listener : Listener)
  /-- Drops the oldest subscription of a listener that compares equal, if there is one. -/
  | unsubscribe (listener : Listener)
  deriving DecidableEq, Repr

/-- What a listener does when it is called, or a client in its turn. -/
inductive Reaction (Memory : Type) where
  | finish
  | raise (message : String)
  /-- Goes on according to the present state of the session. -/
  | consult (next : Session Memory → Reaction Memory)
  | remember (update : Memory → Memory) (next : Reaction Memory)
  /-- Carries out an operation and goes on according to the failure that came out
  of it, if any. -/
  | perform (operation : Operation) (next : Option String → Reaction Memory)

/-- What each listener does on being told of an action, or of a clear. -/
abbrev Behaviour (Memory : Type) :=
  Listener → Option Action → Reaction Memory

/-! ### Runs -/

/-- What happens in a session, moment by moment. Moves are numbered in the order
in which they begin. -/
inductive Event where
  | began (number : Nat) (move : Move)
  | subscribed (listener : Listener)
  /-- A listener is unsubscribed, which drops the subscription of the given one, if any. -/
  | unsubscribed (listener : Listener) (dropped : Option Listener)
  | logged (number : Nat) (record : Record)
  /-- A listener is called on account of a move while the navigator is in the given
  state. -/
  | called (number : Nat) (listener : Listener) (heard : Option Action)
      (navigator : Navigator)
  /-- The call of a listener is over, and raised a failure or not. -/
  | answered (number : Nat) (listener : Listener) (failure : Option String)
  /-- A move is over, raised a failure or not, and leaves the navigator in the given
  state. -/
  | ended (number : Nat) (failure : Option String) (navigator : Navigator)
  deriving DecidableEq, Repr

inductive Outcome where
  | returned
  | raised (message : String)
  /-- Calls were nested more deeply than the run had provided for. -/
  | exhausted
  deriving DecidableEq, Repr

def Outcome.failure? : Outcome → Option String
  | .raised message => some message
  | _ => none

structure Run (Memory : Type) where
  outcome : Outcome
  session : Session Memory
  events : List Event := []

namespace Run

variable {Memory : Type}

def after (run : Run Memory) (events : List Event) : Run Memory :=
  { run with events := events ++ run.events }

/-- Puts an event after those of a run, unless the run was exhausted. The event may
tell of the failure that came out of the run and of the navigator it left behind. -/
def closed (run : Run Memory) (event : Option String → Navigator → Event) : Run Memory :=
  match run.outcome with
  | .exhausted => run
  | outcome =>
      { run with events := run.events ++ [event outcome.failure? run.session.navigator] }

/-- Goes on with the session a run left behind, unless the run was exhausted. -/
def andThen (run : Run Memory) (next : Option String → Session Memory → Run Memory) :
    Run Memory :=
  match run.outcome with
  | .exhausted => run
  | _ => (next run.outcome.failure? run.session).after run.events

end Run

def Reaction.follow {Memory : Type} (perform : Operation → Session Memory → Run Memory) :
    Reaction Memory → Session Memory → Run Memory
  | .finish, session => { outcome := .returned, session }
  | .raise message, session => { outcome := .raised message, session }
  | .consult next, session => (next session).follow perform session
  | .remember update next, session =>
      next.follow perform { session with memory := update session.memory }
  | .perform operation next, session =>
      (perform operation session).andThen fun failure session =>
        (next failure).follow perform session

namespace Session

variable {Memory : Type}

def announce (call : Listener → Session Memory → Run Memory) :
    List Listener → Session Memory → Run Memory
  | [], session => { outcome := .returned, session }
  | listener :: rest, session =>
      (call listener session).andThen fun failure session =>
        match failure with
        | some message => { outcome := .raised message, session }
        | none => announce call rest session

/-- Has a listener hear of a move, with its call and its answer as events. -/
def call (react : Reaction Memory → Session Memory → Run Memory)
    (behaviour : Behaviour Memory) (number : Nat) (heard : Option Action)
    (listener : Listener) (session : Session Memory) : Run Memory :=
  ((react (behaviour listener heard) session).closed
    fun failure _ => .answered number listener failure).after
      [.called number listener heard session.navigator]

/-- Carries out an operation, with calls nested no more deeply than `depth`. A move
changes the navigator first; then the listeners subscribed at that moment are
called, whoever comes or goes meanwhile. -/
def perform (behaviour : Behaviour Memory) : Nat → Operation → Session Memory → Run Memory
  | 0, _, session => { outcome := .exhausted, session }
  | _ + 1, .subscribe listener, session =>
      { outcome := .returned
        session := { session with subscribers := session.subscribers ++ [listener] }
        events := [.subscribed listener] }
  | _ + 1, .unsubscribe listener, session =>
      { outcome := .returned
        session := { session with subscribers := session.subscribers.eraseP listener.equals }
        events := [.unsubscribed listener (session.subscribers.find? listener.equals)] }
  | depth + 1, .move move, session =>
      let number := session.begun
      let step := session.navigator.apply move
      let moved := { session with navigator := step.navigator, begun := number + 1 }
      let announced : Run Memory := match step.announcement with
        | none => { outcome := .returned, session := moved }
        | some heard =>
            announce (call (Reaction.follow (perform behaviour depth)) behaviour number heard)
              session.subscribers moved
      (announced.closed (.ended number)).after
        (.began number move :: step.records.map (.logged number))

/-- Carries out what clients do in turn. A failure ends the turn of one client
only. -/
def play (behaviour : Behaviour Memory) (depth : Nat) :
    List (Reaction Memory) → Session Memory → List (Run Memory)
  | [], _ => []
  | reaction :: rest, session =>
      let run := reaction.follow (perform behaviour depth) session
      run :: play behaviour depth rest run.session

end Session

end Router
