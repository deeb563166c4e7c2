import Router.Proofs.Session.Course
import Router.Session.Script

namespace Router

/-! ## Replaying a session

Listeners interrupt a move in the midst of its announcement, make further moves from
there, and break the announcement off by a failure. None of this shows on the
navigator: at every point of a session it is where it would be had the moves begun so
far been made one after the other with nobody listening. -/

namespace Event

def move? : Event → Option Move
  | .began _ move => some move
  | _ => none

/-- The navigator as a listener finds it when called, or as a move leaves it behind. -/
def navigator? : Event → Option Navigator
  | .called _ _ _ navigator => some navigator
  | .ended _ _ navigator => some navigator
  | _ => none

end Event

namespace Session

/-- The moves of all clients and listeners, in the order in which they began. -/
def movesBegun (events : List Event) : List Move :=
  events.filterMap Event.move?

@[simp] theorem movesBegun_nil : movesBegun [] = [] := rfl

theorem movesBegun_cons (event : Event) (events : List Event) :
    movesBegun (event :: events) = event.move?.toList ++ movesBegun events := by
  cases event <;> rfl

@[simp] theorem movesBegun_append (earlier later : List Event) :
    movesBegun (earlier ++ later) = movesBegun earlier ++ movesBegun later :=
  List.filterMap_append

theorem Step.moves {before after : Moment} {event : Event}
    (step : Step before event after) :
    after.moves = before.moves ++ event.move?.toList := by
  cases step with
  | began => rfl
  | subscribed | unsubscribed | logged | called | answered | ended =>
      exact (List.append_nil _).symm

theorem Step.navigator {before after : Moment} {event : Event}
    (step : Step before event after) :
    after.navigator = before.navigator.applyAll event.move?.toList := by
  cases step <;> rfl

theorem Step.navigator_seen {before after : Moment} {event : Event} {seen : Navigator}
    (step : Step before event after) (shown : seen ∈ event.navigator?) :
    seen = before.navigator := by
  cases step <;> cases shown <;> rfl

theorem Course.moves {first last : Moment} {events : List Event}
    (course : Course first events last) : last.moves = first.moves ++ movesBegun events := by
  induction course with
  | nil => simp
  | cons step _ induction =>
      rw [induction, step.moves, movesBegun_cons, List.append_assoc]

/-- Along any course the navigator goes through the moves begun, and nothing else
happens to it. -/
theorem Course.navigator {first last : Moment} {events : List Event}
    (course : Course first events last) :
    last.navigator = first.navigator.applyAll (movesBegun events) := by
  induction course with
  | nil => rfl
  | @cons first middle last event events step _ induction =>
      rw [induction, step.navigator, movesBegun_cons]
      exact (List.foldl_append ..).symm

variable {Memory : Type}

abbrev new (initial : String) (config : Config) (memory : Memory) : Session Memory :=
  { navigator := .start initial config, memory }

/-- A new navigator after the moves that the given events tell of, made one after the
other with nobody listening. -/
def replayed (initial : String) (config : Config) (events : List Event) : Navigator :=
  (Navigator.start initial config).applyAll (movesBegun events)

abbrev Moment.new (initial : String) (config : Config) : Moment :=
  { navigator := .start initial config }

section

variable {initial : String} {config : Config} {events : List Event} {last : Moment}

theorem Course.navigator_new (course : Course (.new initial config) events last) :
    last.navigator = replayed initial config events :=
  course.navigator

theorem Course.moves_new (course : Course (.new initial config) events last) :
    last.moves = movesBegun events :=
  course.moves

theorem Course.navigator_at {before after : List Event} {event : Event} {seen : Navigator}
    (course : Course (.new initial config) (before ++ event :: after) last)
    (shown : seen ∈ event.navigator?) : seen = replayed initial config before := by
  rcases course.step_at with ⟨moment, _, earlier, step, -⟩
  rw [step.navigator_seen shown]
  exact earlier.navigator_new

/-- Moves are numbered in the order in which they begin. -/
theorem Course.number_began {before after : List Event} {number : Nat} {move : Move}
    (course : Course (.new initial config) (before ++ .began number move :: after) last) :
    number = (movesBegun before).length := by
  rcases course.step_at with ⟨moment, _, earlier, step, -⟩
  rw [← earlier.moves_new]
  cases step
  rfl

theorem Course.exists_began {earlier later : List Move} {move : Move}
    (course : Course (.new initial config) events last)
    (moves : movesBegun events = earlier ++ move :: later) :
    ∃ before after, events = before ++ .began earlier.length move :: after ∧
      movesBegun before = earlier := by
  rcases List.filterMap_eq_append_iff.mp moves with ⟨left, right, rfl, leftMoves, rightMoves⟩
  rcases List.filterMap_eq_cons_iff.mp rightMoves with
    ⟨idle, event, after, rfl, none, begins, -⟩
  have idleMoves : movesBegun idle = [] := List.filterMap_eq_nil_iff.mpr none
  have beforeMoves : movesBegun (left ++ idle) = earlier := by
    rw [movesBegun_append, idleMoves, List.append_nil]
    exact leftMoves
  cases event with
  | began number found =>
      cases begins
      rw [← List.append_assoc] at course
      refine ⟨left ++ idle, after, ?_, beforeMoves⟩
      rw [← beforeMoves, ← course.number_began, List.append_assoc]
  | subscribed | unsubscribed | logged | called | answered | ended => cases begins

end

theorem shows_new (initial : String) (config : Config) (memory : Memory) :
    (Moment.new initial config).Shows (new initial config memory) :=
  ⟨rfl, rfl, rfl⟩

theorem open_new (initial : String) (config : Config) : (Moment.new initial config).Open := by
  intro round member
  cases member

theorem nested_new (initial : String) (config : Config) : (Moment.new initial config).Nested :=
  ⟨fun _ member => (nomatch member), fun _ member => (nomatch member)⟩

/-- All events of a new session lead to some moment. -/
theorem course_chronicle (behaviour : Behaviour Memory) (depth : Nat)
    (clients : List (Reaction Memory)) (initial : String) (config : Config)
    (memory : Memory) :
    ∃ last, Course (.new initial config)
      (chronicle (play behaviour depth clients (new initial config memory))) last ∧
      last.Open := by
  rcases List.eq_nil_or_concat (play behaviour depth clients (new initial config memory))
    with none | ⟨earlier, run, runs⟩
  · rw [none]
    exact ⟨_, .nil _, open_new initial config⟩
  · rw [List.concat_eq_append] at runs
    rcases course_play behaviour depth (shows_new initial config memory)
      (open_new initial config) runs with ⟨last, course, -, free⟩
    rw [runs]
    exact ⟨last, course, free⟩

section

variable {behaviour : Behaviour Memory} {depth : Nat} {clients : List (Reaction Memory)}
  {initial : String} {config : Config} {memory : Memory}

theorem seen_eq_replayed {before after : List Event} {event : Event} {seen : Navigator}
    (events : chronicle (play behaviour depth clients (new initial config memory)) =
      before ++ event :: after) (shown : seen ∈ event.navigator?) :
    seen = replayed initial config before := by
  rcases course_chronicle behaviour depth clients initial config memory
    with ⟨last, course, -⟩
  rw [events] at course
  exact course.navigator_at shown

theorem navigator_after_eq_replayed {earlier later : List (Run Memory)} {run : Run Memory}
    (runs : play behaviour depth clients (new initial config memory) =
      earlier ++ run :: later) :
    run.session.navigator = replayed initial config (chronicle (earlier ++ [run])) := by
  rcases course_play behaviour depth (shows_new initial config memory)
    (open_new initial config) runs with ⟨last, course, shows, -⟩
  rw [← shows.navigator]
  exact course.navigator_new

/-- What moves keep without listeners holds throughout every session. -/
theorem holds_throughout (Holds : Navigator → Prop)
    (moved : ∀ moves, Holds ((Navigator.start initial config).applyAll moves)) :
    let runs := play behaviour depth clients (new initial config memory)
    (∀ event ∈ chronicle runs, ∀ seen ∈ event.navigator?, Holds seen) ∧
    ∀ run ∈ runs, Holds run.session.navigator := by
  constructor
  · intro event member seen shown
    rcases List.append_of_mem member with ⟨before, after, split⟩
    rw [seen_eq_replayed split shown]
    exact moved _
  · intro run member
    rcases List.append_of_mem member with ⟨earlier, later, split⟩
    rw [navigator_after_eq_replayed split]
    exact moved _

end

/-- Whenever a listener is called, whenever a move is over, and after every client's
turn, the navigator is where the moves begun so far lead when they are made one after
the other and nobody listens. -/
theorem navigator_eq_replayed (behaviour : Behaviour Memory) (depth : Nat)
    (clients : List (Reaction Memory)) (initial : String) (config : Config)
    (memory : Memory) :
    let runs := play behaviour depth clients (new initial config memory)
    (∀ before event after, chronicle runs = before ++ event :: after →
      ∀ seen ∈ event.navigator?, seen = replayed initial config before) ∧
    (∀ earlier run later, runs = earlier ++ run :: later →
      run.session.navigator = replayed initial config (chronicle (earlier ++ [run]))) := by
  intro runs
  constructor
  · intro before event after events seen shown
    exact seen_eq_replayed events shown
  · intro earlier run later split
    exact navigator_after_eq_replayed split

/-- A listener goes back when it hears of a navigation, and another one fails on being
told of that. -/
def interruption : List (Reaction Script.Memory) :=
  [.subscribe "guard" "first" 1 [.move (.back 1)] none,
    .subscribe "bell" "second" 1 [] (some "too loud"),
    .move (.navigate "a" false)].map (Script.react .finish)

/-- The failure ends both moves, and yet neither of them is lost. -/
theorem navigator_eq_replayed_interrupted :
    ∃ before seen,
      chronicle (play Script.behaviour 3 interruption (new "/" {} {})) =
        before ++ [.ended 0 (some "too loud") seen] ∧
      movesBegun before = [.navigate "a" false, .back 1] ∧
      seen.forwardHistory = ["/a"] ∧ seen = replayed "/" {} before := by
  let events := chronicle (play Script.behaviour 3 interruption (new "/" {} {}))
  let seen := replayed "/" {} events.dropLast
  have split : events = events.dropLast ++ [.ended 0 (some "too loud") seen] := by
    decide +kernel
  have replays := navigator_eq_replayed Script.behaviour 3 interruption "/" {} {}
  exact ⟨_, seen, split, by decide +kernel, by decide +kernel,
    replays.1 _ (.ended 0 (some "too loud") seen) [] split seen rfl⟩

end Session

end Router
