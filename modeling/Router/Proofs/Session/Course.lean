import Router.Session
import Mathlib.Data.List.Induction

namespace Router.Session

/-! ## The course of a session

What can happen next in a session is decided by little: the navigator, the
subscribers, and how far the calls on account of each move under way have come. This
file states the rules, event by event, and shows that every run keeps to them,
whatever its listeners and clients do. All that is said elsewhere about the order of
events is proved from the rules alone. -/

variable {Memory : Type}

/-- A move under way and what it brought about. Some of its records may still be to
report, and some of its audience to call. One listener may be in its call, and the one
called last may have failed. -/
structure Round where
  number : Nat
  step : Navigator.Step
  unlogged : List Record
  audience : List Listener
  waiting : List Listener
  calling : Option Listener := none
  failure : Option String := none

/-- The moves are those begun so far, in the order in which they began. The rounds are
those of them that are under way, innermost first. -/
structure Moment where
  navigator : Navigator
  subscribers : List Listener := []
  moves : List Move := []
  rounds : List Round := []

namespace Moment

/-- Operations are carried out for clients, while no move is under way, or for the
listener that is being called on account of the innermost move. -/
def Open (moment : Moment) : Prop :=
  ∀ round ∈ moment.rounds.head?, round.calling ≠ none

/-- The listeners to be told of a move that brought this about, if it were made now. -/
def audience (moment : Moment) (step : Navigator.Step) : List Listener :=
  if step.announcement.isSome then moment.subscribers else []

def moved (moment : Moment) (move : Move) : Moment :=
  let step := moment.navigator.apply move
  { moment with
    navigator := step.navigator
    moves := moment.moves ++ [move]
    rounds :=
      { number := moment.moves.length
        step
        unlogged := step.records
        audience := moment.audience step
        waiting := moment.audience step } :: moment.rounds }

structure Shows (moment : Moment) (session : Session Memory) : Prop where
  navigator : moment.navigator = session.navigator
  subscribers : moment.subscribers = session.subscribers
  begun : moment.moves.length = session.begun

end Moment

inductive Step : Moment → Event → Moment → Prop
  | began {moment : Moment} (free : moment.Open) (move : Move) :
      Step moment (.began moment.moves.length move) (moment.moved move)
  | subscribed {moment : Moment} (free : moment.Open) (listener : Listener) :
      Step moment (.subscribed listener)
        { moment with subscribers := moment.subscribers ++ [listener] }
  | unsubscribed {moment : Moment} (free : moment.Open) (listener : Listener) :
      Step moment (.unsubscribed listener (moment.subscribers.find? listener.equals))
        { moment with subscribers := moment.subscribers.eraseP listener.equals }
  | logged {moment : Moment} {round : Round} {rounds : List Round} {record : Record}
      {records : List Record} (under : moment.rounds = round :: rounds)
      (next : round.unlogged = record :: records) :
      Step moment (.logged round.number record)
        { moment with rounds := { round with unlogged := records } :: rounds }
  | called {moment : Moment} {round : Round} {rounds : List Round} {listener : Listener}
      {waiting : List Listener} {heard : Option Action}
      (under : moment.rounds = round :: rounds) (reported : round.unlogged = [])
      (idle : round.calling = none) (intact : round.failure = none)
      (next : round.waiting = listener :: waiting)
      (told : round.step.announcement = some heard) :
      Step moment (.called round.number listener heard moment.navigator)
        { moment with
          rounds := { round with waiting, calling := some listener } :: rounds }
  | answered {moment : Moment} {round : Round} {rounds : List Round}
      {listener : Listener} (under : moment.rounds = round :: rounds)
      (calling : round.calling = some listener) (failure : Option String) :
      Step moment (.answered round.number listener failure)
        { moment with rounds := { round with calling := none, failure } :: rounds }
  | ended {moment : Moment} {round : Round} {rounds : List Round}
      (under : moment.rounds = round :: rounds) (reported : round.unlogged = [])
      (idle : round.calling = none)
      (complete : round.failure = none → round.waiting = []) :
      Step moment (.ended round.number round.failure moment.navigator)
        { moment with rounds }

inductive Course : Moment → List Event → Moment → Prop
  | nil (moment : Moment) : Course moment [] moment
  | cons {first middle last : Moment} {event : Event} {events : List Event} :
      Step first event middle → Course middle events last →
      Course first (event :: events) last

namespace Course

theorem single {first last : Moment} {event : Event} (step : Step first event last) :
    Course first [event] last :=
  .cons step (.nil last)

theorem append {first middle last : Moment} {earlier later : List Event}
    (left : Course first earlier middle) (right : Course middle later last) :
    Course first (earlier ++ later) last := by
  induction left with
  | nil => exact right
  | cons step _ induction => exact .cons step (induction right)

theorem split {first last : Moment} {earlier later : List Event}
    (course : Course first (earlier ++ later) last) :
    ∃ middle, Course first earlier middle ∧ Course middle later last := by
  induction earlier generalizing first with
  | nil => exact ⟨first, .nil first, course⟩
  | cons event earlier induction =>
      cases course with
      | cons step rest =>
          rcases induction rest with ⟨middle, left, right⟩
          exact ⟨middle, .cons step left, right⟩

theorem step_at {first last : Moment} {earlier later : List Event} {event : Event}
    (course : Course first (earlier ++ event :: later) last) :
    ∃ before after, Course first earlier before ∧ Step before event after ∧
      Course after later last := by
  rcases course.split with ⟨before, left, right⟩
  cases right with
  | cons step rest => exact ⟨before, _, left, step, rest⟩

/-- What holds at first and is kept by each event holds after all of them. Unlike the
induction on a course, this one looks back at the events so far. -/
theorem induction_on_last {first : Moment}
    {motive : ∀ events last, Course first events last → Prop}
    (nil : motive [] first (.nil first))
    (snoc : ∀ {earlier event before after} (course : Course first earlier before)
      (step : Step before event after), motive earlier before course →
      motive (earlier ++ [event]) after (course.append (.single step)))
    {events : List Event} {last : Moment} (course : Course first events last) :
    motive events last course := by
  induction events using List.reverseRecOn generalizing last with
  | nil =>
      cases course
      exact nil
  | append_singleton earlier event induction =>
      rcases course.step_at with ⟨before, after, left, step, rest⟩
      cases rest
      exact snoc left step (induction left)

end Course

/-! ### Moves inside of moves -/

namespace Moment

/-- Moves are nested by calls: a move inside of which another one is under way is
calling a listener, and had reported everything before. -/
structure Nested (moment : Moment) : Prop where
  reported : ∀ round ∈ moment.rounds, round.calling ≠ none → round.unlogged = []
  calling : ∀ round ∈ moment.rounds.tail, round.calling ≠ none

theorem Nested.of_innermost {before : Moment} (nested : before.Nested) {round : Round}
    {rounds : List Round} (under : before.rounds = round :: rounds) {after : Moment}
    {later : Round} (innermost : after.rounds = later :: rounds)
    (reported : later.calling ≠ none → later.unlogged = []) : after.Nested := by
  have outer := nested.calling
  have settled := nested.reported
  rw [under] at outer
  rw [under, List.forall_mem_cons] at settled
  constructor
  · rw [innermost, List.forall_mem_cons]
    exact ⟨reported, settled.2⟩
  · rw [innermost]
    exact outer

/-- When the innermost move is over, the listener that made it can go on. -/
theorem Nested.open_outside {moment : Moment} (nested : moment.Nested) {round : Round}
    {rounds : List Round} (under : moment.rounds = round :: rounds) :
    ({ moment with rounds } : Moment).Open := by
  intro outer member
  exact nested.calling outer (by rw [under]; exact List.mem_of_head? member)

end Moment

theorem Step.nested {before after : Moment} {event : Event}
    (step : Step before event after) (nested : before.Nested) : after.Nested := by
  cases step with
  | began free move =>
      refine ⟨List.forall_mem_cons.mpr ⟨fun calling => absurd rfl calling, nested.reported⟩, ?_⟩
      -- the innermost move so far has been calling the listener that makes this one
      change ∀ round ∈ before.rounds, round.calling ≠ none
      cases under : before.rounds with
      | nil => exact fun _ member => (nomatch member)
      | cons innermost rounds =>
          have outer := nested.calling
          rw [under] at outer
          exact List.forall_mem_cons.mpr ⟨free innermost (by simp [under]), outer⟩
  | subscribed | unsubscribed => exact ⟨nested.reported, nested.calling⟩
  | @logged round rounds record records under next =>
      refine nested.of_innermost under rfl fun calling => ?_
      have reported : round.unlogged = [] :=
        nested.reported round (by simp [under]) calling
      rw [next] at reported
      cases reported
  | called under reported => exact nested.of_innermost under rfl fun _ => reported
  | answered under => exact nested.of_innermost under rfl fun calling => absurd rfl calling
  | ended under =>
      have outer := nested.calling
      have settled := nested.reported
      rw [under] at outer
      rw [under, List.forall_mem_cons] at settled
      exact ⟨settled.2, fun other member => outer other (List.mem_of_mem_tail member)⟩

theorem Course.nested {first last : Moment} {events : List Event}
    (course : Course first events last) (nested : first.Nested) : last.Nested := by
  induction course with
  | nil => exact nested
  | cons step _ induction => exact induction (step.nested nested)

/-! ### Runs keep to the rules -/

/-- The events of a run lead from the given moment to one of the session at the end.
Unless the run was exhausted, the moves then under way are as expected after its
failure, if any. -/
def Leads (moment : Moment) (run : Run Memory)
    (expected : Option String → List Round → Prop) : Prop :=
  ∃ last : Moment, Course moment run.events last ∧ last.Shows run.session ∧
    if run.outcome = .exhausted then last.Open
    else expected run.outcome.failure? last.rounds

/-- An operation leaves the moves under way as they were. -/
abbrev LeadsBack (moment : Moment) (run : Run Memory) : Prop :=
  Leads moment run fun _ rounds => rounds = moment.rounds

namespace Leads

variable {moment : Moment} {run : Run Memory}
  {expected expectedNext : Option String → List Round → Prop}

theorem after {middle : Moment} {events : List Event}
    (course : Course moment events middle) (leads : Leads middle run expected) :
    Leads moment (run.after events) expected := by
  rcases leads with ⟨last, rest, shows, outcome⟩
  exact ⟨last, course.append rest, shows, outcome⟩

theorem andThen {next : Option String → Session Memory → Run Memory}
    (leads : Leads moment run expected)
    (continues : ∀ last : Moment, last.Shows run.session →
      expected run.outcome.failure? last.rounds →
      Leads last (next run.outcome.failure? run.session) expectedNext) :
    Leads moment (run.andThen next) expectedNext := by
  rcases leads with ⟨last, course, shows, outcome⟩
  rw [Run.andThen]
  split
  · next exhausted => exact ⟨last, course, shows, by simpa [exhausted] using outcome⟩
  · next finished =>
      rw [if_neg finished] at outcome
      exact .after course (continues last shows outcome)

theorem closed {event : Option String → Navigator → Event}
    (leads : Leads moment run expected)
    (closes : ∀ last : Moment, last.Shows run.session →
      expected run.outcome.failure? last.rounds →
      ∃ final : Moment,
        Step last (event run.outcome.failure? run.session.navigator) final ∧
        final.Shows run.session ∧ expectedNext run.outcome.failure? final.rounds) :
    Leads moment (run.closed event) expectedNext := by
  rcases leads with ⟨last, course, shows, outcome⟩
  rw [Run.closed]
  split
  · next exhausted => exact ⟨last, course, shows, by simpa [exhausted] using outcome⟩
  · next finished =>
      rw [if_neg finished] at outcome
      rcases closes last shows outcome with ⟨final, step, finalShows, asExpected⟩
      refine ⟨final, course.append (.single step), finalShows, ?_⟩
      rw [if_neg finished]
      exact asExpected

end Leads

theorem leads_follow {perform : Operation → Session Memory → Run Memory}
    (performs : ∀ operation session moment, Moment.Shows moment session →
      moment.Open → LeadsBack moment (perform operation session))
    (reaction : Reaction Memory) {session : Session Memory} {moment : Moment}
    (shows : moment.Shows session) (free : moment.Open) :
    LeadsBack moment (reaction.follow perform session) := by
  induction reaction generalizing session moment with
  | finish => exact ⟨moment, .nil moment, shows, rfl⟩
  | raise message => exact ⟨moment, .nil moment, shows, rfl⟩
  | consult next induction => exact induction session shows free
  | remember update next induction =>
      exact induction ⟨shows.navigator, shows.subscribers, shows.begun⟩ free
  | perform operation next induction =>
      apply (performs operation session moment shows free).andThen
      intro last lastShows same
      have lastFree : last.Open := by
        rw [Moment.Open, same]
        exact free
      have leads := induction (perform operation session).outcome.failure? lastShows lastFree
      rwa [LeadsBack, same] at leads

/-- All listeners of a round were called, or one of them failed. -/
def Announced (round : Round) (rounds : List Round) (failure : Option String)
    (later : List Round) : Prop :=
  ∃ waiting, later = { round with waiting, failure } :: rounds ∧
    (failure = none → waiting = [])

/-- A call follows the rules if the reaction of the listener does. -/
theorem leads_call {react : Reaction Memory → Session Memory → Run Memory}
    (reacts : ∀ reaction session moment, Moment.Shows moment session →
      moment.Open → LeadsBack moment (react reaction session))
    (behaviour : Behaviour Memory) {heard : Option Action} {listener : Listener}
    {session : Session Memory} {moment : Moment} {round : Round} {rounds : List Round}
    {waiting : List Listener} (shows : moment.Shows session)
    (under : moment.rounds = round :: rounds) (reported : round.unlogged = [])
    (idle : round.calling = none) (intact : round.failure = none)
    (next : round.waiting = listener :: waiting)
    (told : round.step.announcement = some heard) :
    Leads moment (call react behaviour round.number heard listener session)
      fun failure later => later = { round with waiting, failure } :: rounds := by
  let inCall : Moment :=
    { moment with rounds := { round with waiting, calling := some listener } :: rounds }
  have step : Step moment (.called round.number listener heard session.navigator) inCall := by
    rw [← shows.navigator]
    exact .called under reported idle intact next told
  have inCallShows : inCall.Shows session :=
    ⟨shows.navigator, shows.subscribers, shows.begun⟩
  have free : inCall.Open := by
    intro innermost member
    cases member
    exact Option.some_ne_none listener
  refine .after (.single step)
    ((reacts (behaviour listener heard) session inCall inCallShows free).closed ?_)
  intro last lastShows same
  refine ⟨_, .answered same rfl _, ⟨lastShows.navigator, lastShows.subscribers,
    lastShows.begun⟩, ?_⟩
  rw [idle]

theorem leads_announce {react : Reaction Memory → Session Memory → Run Memory}
    (reacts : ∀ reaction session moment, Moment.Shows moment session →
      moment.Open → LeadsBack moment (react reaction session))
    (behaviour : Behaviour Memory) {heard : Option Action} {listeners : List Listener}
    {session : Session Memory} {moment : Moment} {round : Round} {rounds : List Round}
    (shows : moment.Shows session)
    (under : moment.rounds = round :: rounds) (reported : round.unlogged = [])
    (idle : round.calling = none) (intact : round.failure = none)
    (next : round.waiting = listeners)
    (told : round.step.announcement = some heard) :
    Leads moment
      (announce (call react behaviour round.number heard) listeners session)
      (Announced round rounds) := by
  induction listeners generalizing session moment round with
  | nil =>
      refine ⟨moment, .nil moment, shows, round.waiting, ?_, fun _ => next⟩
      rw [under]
      congr 1
      cases round
      cases intact
      rfl
  | cons listener listeners induction =>
      refine (leads_call reacts behaviour shows under reported idle intact next told).andThen ?_
      intro last lastShows called
      split
      · next message failed =>
          refine ⟨last, .nil last, lastShows, listeners, ?_, fun impossible => ?_⟩
          · rw [called, failed]
            rfl
          · cases impossible
      · next succeeded =>
          rw [succeeded] at called
          -- the round is read off the call, not off the goal
          have rest := induction lastShows called reported idle rfl rfl told
          exact rest

theorem course_logged (moment : Moment) (round : Round) (rounds : List Round)
    (records : List Record) :
    Course { moment with rounds := { round with unlogged := records } :: rounds }
      (records.map (.logged round.number))
      { moment with rounds := { round with unlogged := [] } :: rounds } := by
  induction records with
  | nil => exact .nil _
  | cons record records induction =>
      let before : Round := { round with unlogged := record :: records }
      exact .cons (@Step.logged _ before rounds record records rfl rfl) induction

/-- A move follows the rules if all that its listeners do to the session does. -/
theorem leads_move (behaviour : Behaviour Memory) (depth : Nat)
    (performs : ∀ operation session moment, Moment.Shows moment session →
      moment.Open → LeadsBack moment (perform behaviour depth operation session))
    (move : Move) {session : Session Memory} {moment : Moment}
    (shows : moment.Shows session) (free : moment.Open) :
    LeadsBack moment (perform behaviour (depth + 1) (.move move) session) := by
  obtain ⟨navigator, subscribers, memory, begun⟩ := session
  obtain ⟨rfl, rfl, rfl⟩ := shows
  let step := moment.navigator.apply move
  let round : Round :=
    { number := moment.moves.length
      step
      unlogged := []
      audience := moment.audience step
      waiting := moment.audience step }
  let reported : Moment := { moment.moved move with rounds := round :: moment.rounds }
  have logged : Course (moment.moved move)
      (step.records.map (.logged moment.moves.length)) reported :=
    course_logged (moment.moved move) round moment.rounds step.records
  refine .after (.cons (.began free move) logged)
    ((show Leads reported _ (Announced round moment.rounds) from ?_).closed ?_)
  · have shows : reported.Shows
        (⟨step.navigator, moment.subscribers, memory, moment.moves.length + 1⟩ :
          Session Memory) :=
      ⟨rfl, rfl, List.length_append⟩
    split
    · next silent =>
        refine ⟨reported, .nil reported, shows, round.waiting, rfl, fun _ => ?_⟩
        simp [round, step, Moment.audience, silent]
    · next heard told =>
        have waiting : round.waiting = moment.subscribers := by
          simp [round, step, Moment.audience, told]
        have reacts : ∀ reaction session moment, Moment.Shows moment session →
            moment.Open →
            LeadsBack moment (Reaction.follow (perform behaviour depth) reaction session) :=
          fun reaction session moment shows free => leads_follow performs reaction shows free
        exact leads_announce reacts behaviour shows rfl rfl rfl rfl waiting told
  · intro last lastShows ⟨waiting, under, complete⟩
    rw [← lastShows.navigator]
    exact ⟨{ last with rounds := moment.rounds },
      .ended under rfl rfl complete,
      ⟨lastShows.navigator, lastShows.subscribers, lastShows.begun⟩, rfl⟩

theorem leads_perform (behaviour : Behaviour Memory) (depth : Nat) (operation : Operation)
    (session : Session Memory) (moment : Moment) (shows : moment.Shows session)
    (free : moment.Open) : LeadsBack moment (perform behaviour depth operation session) := by
  -- whatever a listener does is carried out with one level of nesting less
  induction depth generalizing operation session moment with
  | zero => exact ⟨moment, .nil moment, shows, free⟩
  | succ depth induction =>
      cases operation with
      | subscribe listener =>
          exact ⟨_, .single (.subscribed free listener),
            ⟨shows.navigator, congrArg (· ++ [listener]) shows.subscribers, shows.begun⟩,
            rfl⟩
      | unsubscribe listener =>
          rw [perform, ← shows.subscribers]
          exact ⟨_, .single (.unsubscribed free listener),
            ⟨shows.navigator, rfl, shows.begun⟩, rfl⟩
      | move move => exact leads_move behaviour depth induction move shows free

/-! ### Whole sessions -/

def chronicle (runs : List (Run Memory)) : List Event :=
  runs.flatMap Run.events

/-- The turn of a client ends where the next one can begin. -/
theorem course_turn (behaviour : Behaviour Memory) (depth : Nat) (client : Reaction Memory)
    {session : Session Memory} {moment : Moment} (shows : moment.Shows session)
    (free : moment.Open) :
    let run := client.follow (perform behaviour depth) session
    ∃ last : Moment, Course moment run.events last ∧ last.Shows run.session ∧ last.Open ∧
      (run.outcome ≠ .exhausted → last.rounds = moment.rounds) := by
  intro run
  have leads : LeadsBack moment run :=
    leads_follow (leads_perform behaviour depth) client shows free
  rcases leads with ⟨last, course, lastShows, outcome⟩
  refine ⟨last, course, lastShows, ?_, fun finished => ?_⟩
  · split at outcome
    · exact outcome
    · rw [Moment.Open, outcome]
      exact free
  · rwa [if_neg finished] at outcome

/-- The events of a session up to the end of any client's turn lead to a moment of the
session as it is then. -/
theorem course_play (behaviour : Behaviour Memory) (depth : Nat)
    {clients : List (Reaction Memory)} {session : Session Memory} {moment : Moment}
    (shows : moment.Shows session) (free : moment.Open)
    {earlier later : List (Run Memory)} {run : Run Memory}
    (runs : play behaviour depth clients session = earlier ++ run :: later) :
    ∃ last : Moment, Course moment (chronicle (earlier ++ [run])) last ∧
      last.Shows run.session ∧ last.Open := by
  induction clients generalizing session moment earlier with
  | nil => simp [play] at runs
  | cons client clients induction =>
      rcases course_turn behaviour depth client shows free with
        ⟨middle, course, middleShows, middleFree, -⟩
      rw [play] at runs
      cases earlier with
      | nil =>
          rw [List.nil_append, List.cons.injEq] at runs
          rcases runs with ⟨rfl, -⟩
          refine ⟨middle, ?_, middleShows, middleFree⟩
          simpa [chronicle] using course
      | cons first earlier =>
          rw [List.cons_append, List.cons.injEq] at runs
          rcases runs with ⟨rfl, runs⟩
          rcases induction middleShows middleFree runs with ⟨last, rest, lastShows⟩
          exact ⟨last, course.append rest, lastShows⟩

end Router.Session
