import Router.Action
import Router.Config
import Router.Navigator.Trail
import Router.Record

namespace Router

/-! ## Navigators

A navigator is always at some path. It remembers how it got there and, after going
back, where it may go forward to. -/

structure Navigator where
  config : Config := {}
  initialPath : String
  trail : Trail
  /-- The most recent navigation, or nothing before the first one and after a clear. -/
  lastAction : Option Action := none
  deriving DecidableEq, Repr

/-- What a navigator can be told to do. -/
inductive Move where
  /-- Go to a path, read from the current one, as a new entry of the history or in
  place of the current entry. -/
  | navigate (target : String) (replace : Bool)
  | back (count : Int)
  | forward (count : Int)
  /-- Forget every path but the current one. -/
  | clear
  deriving DecidableEq, Repr

namespace Navigator

/-- A navigator that has not moved yet. -/
def start (initial : String) (config : Config) : Navigator :=
  let path := Path.normalize [initial]
  { config, initialPath := path, trail := { current := path } }

def path (navigator : Navigator) : String :=
  navigator.trail.current

def history (navigator : Navigator) : List String :=
  navigator.trail.history

def forwardHistory (navigator : Navigator) : List String :=
  navigator.trail.forwardHistory

def canGoBack (navigator : Navigator) : Bool :=
  !navigator.trail.behind.isEmpty

def canGoForward (navigator : Navigator) : Bool :=
  !navigator.trail.ahead.isEmpty

/-- Whether a link to `target` leads to the current path or, unless it has to be
exact, to a path above it. -/
def isActive (navigator : Navigator) (target relative : String) (exact : Bool) : Bool :=
  let destination := Path.resolve relative target
  if exact then navigator.path == destination
  else (Path.segments destination).isPrefixOf (Path.segments navigator.path)

def describe (navigator : Navigator) : String :=
  "<Navigator path=" ++ Text.quoted navigator.path ++
    " back=" ++ toString navigator.trail.behind.length ++
    " forward=" ++ toString navigator.trail.ahead.length ++ ">"

/-! ### Moves -/

structure Step where
  navigator : Navigator
  records : List Record := []
  /-- What listeners are told. They are told nothing of a move without effect, and
  of a clear that there is no last action. -/
  announcement : Option (Option Action) := none
  deriving DecidableEq, Repr

/-- Arrives at the current path of a new trail by a navigation of this kind. -/
def arrive (navigator : Navigator) (kind : ActionKind) (trail : Trail)
    (records : List Record) : Step :=
  let action := Action.between navigator.path trail.current kind
  { navigator := { navigator with trail, lastAction := some action }
    records
    announcement := some (some action) }

/-- Arrives at the current path of a new trail, of which no more is kept than the
limit allows. -/
def arriveTrimmed (navigator : Navigator) (kind : ActionKind) (trail : Trail) : Step :=
  match navigator.config.limit with
  | none => navigator.arrive kind trail []
  | some limit =>
      let excess := trail.excess limit
      if excess = 0 then navigator.arrive kind trail []
      else navigator.arrive kind (trail.forget excess) [.historyTrimmed limit excess]

def apply (navigator : Navigator) : Move → Step
  | .navigate target replace =>
      let destination := Path.resolve navigator.path target
      if destination = navigator.path then
        { navigator
          records := [.navigationIgnored destination navigator.config.debug] }
      else if replace then
        navigator.arrive .push (navigator.trail.replace destination) []
      else navigator.arriveTrimmed .push (navigator.trail.push destination)
  | .back count =>
      if 0 < count ∧ navigator.canGoBack then
        navigator.arrive .back (navigator.trail.retreat count.toNat) []
      else { navigator }
  | .forward count =>
      if 0 < count ∧ navigator.canGoForward then
        navigator.arriveTrimmed .forward (navigator.trail.advance count.toNat)
      else { navigator }
  | .clear =>
      { navigator := { navigator with trail := navigator.trail.clear, lastAction := none }
        announcement := some none }

/-- The navigator after moves that nobody listens to. -/
def applyAll (navigator : Navigator) (moves : List Move) : Navigator :=
  moves.foldl (fun navigator move => (navigator.apply move).navigator) navigator

example : ((start "/news" {}).applyAll
    [.navigate "latest" false, .navigate "../old" false, .back 1]).forwardHistory =
      ["/news/old"] := by decide +kernel

end Navigator

end Router
