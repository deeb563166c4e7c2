import Router.Proofs.Navigator.Forgetting
import Router.Proofs.Session.Replay

namespace Router

/-! ## Keeping within the limit

Whatever listeners do, a navigator never remembers more paths than its limit allows,
those ahead included. What is reported about forgotten paths can therefore be told
from the moves alone: the log of a session is the log of its moves made one after the
other, and a path is forgotten only by a push onto a full history. -/

namespace Navigator

/-- At least the current path is in the history, and the history together with the
paths ahead is no longer than the limit. -/
def Fits (navigator : Navigator) (config : Config) : Prop :=
  1 ≤ navigator.history.length ∧
  ∀ limit ∈ config.limit,
    navigator.history.length + navigator.forwardHistory.length ≤ limit

/-- Whether a push of the given target would find the history full. -/
def Overflows (navigator : Navigator) (target : String) (limit : Nat) : Prop :=
  navigator.config.limit = some limit ∧ navigator.history.length = limit ∧
  Path.resolve navigator.path target ≠ navigator.path

instance (navigator : Navigator) (target : String) (limit : Nat) :
    Decidable (navigator.Overflows target limit) :=
  inferInstanceAs (Decidable (_ ∧ _ ∧ _))

theorem WithinLimit.fits {navigator : Navigator} (within : navigator.WithinLimit) :
    navigator.Fits navigator.config := by
  refine ⟨navigator.length_history_pos, fun limit limited => ?_⟩
  have total := within limit limited
  rw [Trail.length_timeline] at total
  rw [history, Trail.length_history, forwardHistory, Trail.forwardHistory, List.length_reverse]
  exact total

theorem apply_forward {navigator : Navigator} (within : navigator.WithinLimit)
    (count : Int) :
    (navigator.apply (.forward count)).records = [] ∧
    (navigator.apply (.forward count)).navigator.trail.timeline =
      navigator.trail.timeline := by
  have effect := effect_apply within (.forward count)
  generalize navigator.apply (.forward count) = step at effect
  cases effect with
  | stayedForward => exact ⟨rfl, rfl⟩
  | advanced => exact ⟨rfl, Trail.timeline_advance _ _⟩

theorem history_apply_push {navigator : Navigator} (within : navigator.WithinLimit)
    {target : String} (different : Path.resolve navigator.path target ≠ navigator.path) :
    (navigator.apply (.navigate target false)).navigator.history =
      (if navigator.config.limit = some navigator.history.length then
        navigator.history.tail else navigator.history) ++
          [Path.resolve navigator.path target] := by
  have effect := effect_apply within (.navigate target false)
  generalize navigator.apply (.navigate target false) = step at effect
  cases effect with
  | ignored same => exact absurd same different
  | pushed _ room =>
      have notFull : navigator.config.limit ≠ some navigator.history.length :=
        fun full => Nat.lt_irrefl _ (room _ full)
      rw [if_neg notFull]
      exact Trail.history_push _ _
  | overflowed _ full =>
      rw [if_pos full]
      exact Trail.history_forget_push _ _

/-- That paths were forgotten is reported of a push onto a full history, and of
nothing else. -/
theorem historyTrimmed_mem_records_iff {navigator : Navigator}
    (within : navigator.WithinLimit) (move : Move) (limit dropped : Nat) :
    .historyTrimmed limit dropped ∈ (navigator.apply move).records ↔
      dropped = 1 ∧ ∃ target, move = .navigate target false ∧
        navigator.Overflows target limit := by
  have effect := effect_apply within move
  generalize navigator.apply move = step at effect
  cases effect with
  | ignored same => simp [Overflows, same]
  | pushed different room =>
      have notFull : ∀ target, ¬navigator.Overflows target limit := by
        rintro target ⟨limited, full, -⟩
        exact Nat.ne_of_lt (room limit limited) full
      simp [arrive, notFull]
  | @overflowed target different full =>
      simp only [arrive, List.mem_singleton, Record.historyTrimmed.injEq, Overflows, full,
        Option.some_inj, Move.navigate.injEq, and_true]
      constructor
      · rintro ⟨rfl, rfl⟩
        exact ⟨rfl, target, rfl, rfl, rfl, different⟩
      · rintro ⟨rfl, -, -, rfl, -, -⟩
        exact ⟨rfl, rfl⟩
  | replaced | stayedBack | retreated | stayedForward | advanced | cleared => simp [arrive]

theorem nodup_records {navigator : Navigator} (within : navigator.WithinLimit)
    (move : Move) : (navigator.apply move).records.Nodup := by
  have effect := effect_apply within move
  generalize navigator.apply move = step at effect
  cases effect <;> simp [arrive]

/-! ### The log of moves -/

/-- What is reported by moves made one after the other, each record with the number of
its move. -/
def logAlong : Navigator → Nat → List Move → List (Nat × Record)
  | _, _, [] => []
  | navigator, number, move :: moves =>
      (navigator.apply move).records.map (number, ·) ++
        logAlong (navigator.apply move).navigator (number + 1) moves

theorem logAlong_append (navigator : Navigator) (number : Nat) (earlier later : List Move) :
    logAlong navigator number (earlier ++ later) =
      logAlong navigator number earlier ++
        logAlong (navigator.applyAll earlier) (number + earlier.length) later := by
  induction earlier generalizing navigator number with
  | nil => rfl
  | cons move earlier induction =>
      simp only [List.cons_append, logAlong, applyAll_cons, List.length_cons]
      rw [induction, List.append_assoc, Nat.add_assoc, Nat.add_comm 1]

theorem mem_logAlong_iff {navigator : Navigator} {start number : Nat} {moves : List Move}
    {record : Record} :
    (number, record) ∈ logAlong navigator start moves ↔
      ∃ earlier move later, moves = earlier ++ move :: later ∧
        number = start + earlier.length ∧
        record ∈ ((navigator.applyAll earlier).apply move).records := by
  constructor
  · intro member
    induction moves generalizing navigator start with
    | nil => cases member
    | cons move moves induction =>
        rcases List.mem_append.mp member with here | there
        · rcases List.mem_map.mp here with ⟨found, mem, equal⟩
          cases equal
          exact ⟨[], move, moves, rfl, rfl, mem⟩
        · rcases induction there with ⟨earlier, found, later, rfl, rfl, mem⟩
          refine ⟨move :: earlier, found, later, rfl, ?_, mem⟩
          rw [List.length_cons]
          omega
  · rintro ⟨earlier, move, later, rfl, rfl, member⟩
    rw [logAlong_append]
    exact List.mem_append_right _
      (List.mem_append_left _ (List.mem_map.mpr ⟨record, member, rfl⟩))

theorem nodup_logAlong {navigator : Navigator} (within : navigator.WithinLimit)
    (start : Nat) (moves : List Move) : (logAlong navigator start moves).Nodup := by
  induction moves generalizing navigator start with
  | nil => exact .nil
  | cons move moves induction =>
      have effect := effect_apply within move
      apply List.nodup_append.mpr
      have here : ((navigator.apply move).records.map (start, ·)).Nodup :=
        List.Pairwise.map (start, ·)
          (fun _ _ different equal => different (Prod.mk.inj equal).2)
          (nodup_records within move)
      refine ⟨here, induction (effect.withinLimit within) (start + 1), ?_⟩
      rintro ⟨left, record⟩ here ⟨right, other⟩ there equal
      rcases List.mem_map.mp here with ⟨_, _, first⟩
      rcases mem_logAlong_iff.mp there with ⟨earlier, _, _, _, second, _⟩
      cases first
      cases equal
      omega

end Navigator

/-! ### The log of a session -/

def Event.logged? : Event → Option (Nat × Record)
  | .logged number record => some (number, record)
  | _ => none

namespace Session

/-- All that is reported by the moves of a session, in order. -/
def log (events : List Event) : List (Nat × Record) :=
  events.filterMap Event.logged?

theorem log_cons (event : Event) (events : List Event) :
    log (event :: events) = event.logged?.toList ++ log events := by
  cases event <;> rfl

namespace Moment

def unlogged (moment : Moment) : List (Nat × Record) :=
  match moment.rounds with
  | [] => []
  | round :: _ => round.unlogged.map (round.number, ·)

theorem Nested.unlogged_eq_nil {moment : Moment} (nested : moment.Nested)
    (free : moment.Open) : moment.unlogged = [] := by
  unfold unlogged
  split
  · rfl
  · next round rounds under =>
      have calling : round.calling ≠ none := free round (by simp [under])
      rw [nested.reported round (by simp [under]) calling]
      rfl

end Moment

/-- What an event reports is what its move had still to report. A move reports all it
has to before anything else happens. -/
theorem Step.log {before after : Moment} {event : Event}
    (step : Step before event after) (nested : before.Nested) :
    event.logged?.toList ++ after.unlogged =
      before.unlogged ++
        before.navigator.logAlong before.moves.length event.move?.toList := by
  have afterNested := step.nested nested
  cases step with
  | began free move =>
      rw [nested.unlogged_eq_nil free]
      exact (List.append_nil _).symm
  | subscribed | unsubscribed => exact (List.append_nil _).symm
  | logged under next =>
      simp [Event.logged?, Event.move?, Navigator.logAlong, Moment.unlogged, under, next]
  | called under reported =>
      simp [Event.logged?, Event.move?, Navigator.logAlong, Moment.unlogged, under]
  | answered under =>
      simp [Event.logged?, Event.move?, Navigator.logAlong, Moment.unlogged, under]
  | @ended round rounds under reported =>
      have outer : ({ before with rounds } : Moment).unlogged = [] :=
        afterNested.unlogged_eq_nil (nested.open_outside under)
      have inner : before.unlogged = [] := by simp [Moment.unlogged, under, reported]
      rw [outer, inner]
      rfl

theorem Course.log {first last : Moment} {events : List Event}
    (course : Course first events last) (nested : first.Nested) :
    log events ++ last.unlogged =
      first.unlogged ++ first.navigator.logAlong first.moves.length (movesBegun events) := by
  induction course with
  | nil => exact (List.append_nil _).symm
  | @cons first middle last event events step _ induction =>
      have rest := induction (step.nested nested)
      rw [step.navigator, step.moves, List.length_append] at rest
      rw [log_cons, List.append_assoc, rest, ← List.append_assoc, step.log nested,
        List.append_assoc, movesBegun_cons, Navigator.logAlong_append]

variable {Memory : Type}

/-- The log of a session is that of its moves, made one after the other with nobody
listening. -/
theorem log_chronicle (behaviour : Behaviour Memory) (depth : Nat)
    (clients : List (Reaction Memory)) (initial : String) (config : Config)
    (memory : Memory) :
    let events := chronicle (play behaviour depth clients (new initial config memory))
    log events = (Navigator.start initial config).logAlong 0 (movesBegun events) := by
  intro events
  rcases course_chronicle behaviour depth clients initial config memory
    with ⟨last, course, free⟩
  have nested := nested_new initial config
  have logged := course.log nested
  rw [(course.nested nested).unlogged_eq_nil free, List.append_nil] at logged
  exact logged

/-! ### The limit in a session -/

theorem withinLimit_replayed (initial : String) (config : Config) (events : List Event) :
    (replayed initial config events).WithinLimit :=
  (Navigator.withinLimit_start initial config).applyAll _

theorem config_replayed (initial : String) (config : Config) (events : List Event) :
    (replayed initial config events).config = config :=
  Navigator.config_applyAll (Navigator.withinLimit_start initial config) _

theorem fits_applyAll (initial : String) (config : Config) (moves : List Move) :
    ((Navigator.start initial config).applyAll moves).Fits config := by
  have within := Navigator.withinLimit_start initial config
  have fits := (within.applyAll moves).fits
  rwa [Navigator.config_applyAll within] at fits

theorem historyTrimmed_mem_log_iff {initial : String} {config : Config}
    {events : List Event} {last : Moment} (course : Course (.new initial config) events last)
    (logged : log events = (Navigator.start initial config).logAlong 0 (movesBegun events))
    (number limit dropped : Nat) :
    (number, .historyTrimmed limit dropped) ∈ log events ↔
      dropped = 1 ∧ ∃ before target after,
        events = before ++ .began number (.navigate target false) :: after ∧
        (replayed initial config before).Overflows target limit := by
  have within := Navigator.withinLimit_start initial config
  rw [logged, Navigator.mem_logAlong_iff]
  constructor
  · rintro ⟨earlier, move, later, moves, rfl, member⟩
    rw [Navigator.historyTrimmed_mem_records_iff (within.applyAll earlier)] at member
    rcases member with ⟨one, target, rfl, overflows⟩
    rcases course.exists_began moves with ⟨before, after, split, rfl⟩
    rw [Nat.zero_add]
    exact ⟨one, before, target, after, split, overflows⟩
  · rintro ⟨one, before, target, after, rfl, overflows⟩
    refine ⟨movesBegun before, .navigate target false, movesBegun after, ?_, ?_, ?_⟩
    · rw [movesBegun_append, movesBegun_cons]
      rfl
    · rw [Nat.zero_add]
      exact course.number_began
    · rw [Navigator.historyTrimmed_mem_records_iff (within.applyAll _)]
      exact ⟨one, target, rfl, overflows⟩

/-- However listeners interfere, the navigator never holds more paths than the limit
allows, those ahead included. Going forward never forgets a path, a push forgets the
oldest one if the history is full and otherwise none, and just these pushes are
reported, once each, as having forgotten one path. -/
theorem history_within_limit (behaviour : Behaviour Memory) (depth : Nat)
    (clients : List (Reaction Memory)) (initial : String) (config : Config)
    (memory : Memory) :
    let runs := play behaviour depth clients (new initial config memory)
    let events := chronicle runs
    (∀ event ∈ events, ∀ seen ∈ event.navigator?, seen.Fits config) ∧
    (∀ run ∈ runs, run.session.navigator.Fits config) ∧
    (∀ before after, events = before ++ after →
      let state := replayed initial config before
      (∀ count, (state.apply (.forward count)).records = [] ∧
        (state.apply (.forward count)).navigator.trail.timeline = state.trail.timeline) ∧
      ∀ target, Path.resolve state.path target ≠ state.path →
        (state.apply (.navigate target false)).navigator.history =
          (if config.limit = some state.history.length then state.history.tail
            else state.history) ++ [Path.resolve state.path target]) ∧
    (∀ number limit dropped, (number, .historyTrimmed limit dropped) ∈ log events ↔
      dropped = 1 ∧ ∃ before target after,
        events = before ++ .began number (.navigate target false) :: after ∧
        (replayed initial config before).Overflows target limit) ∧
    (log events).Nodup := by
  intro runs events
  have logged : log events = (Navigator.start initial config).logAlong 0 (movesBegun events) :=
    log_chronicle behaviour depth clients initial config memory
  rcases course_chronicle behaviour depth clients initial config memory
    with ⟨last, course, -⟩
  rcases holds_throughout (·.Fits config) (fits_applyAll initial config) with ⟨seenFit, leftFit⟩
  refine ⟨seenFit, leftFit, ?_, ?_, ?_⟩
  · intro before after _ state
    have stateWithin := withinLimit_replayed initial config before
    refine ⟨Navigator.apply_forward stateWithin, fun target different => ?_⟩
    rw [← config_replayed initial config before]
    exact Navigator.history_apply_push stateWithin different
  · exact historyTrimmed_mem_log_iff course logged
  · rw [logged]
    exact Navigator.nodup_logAlong (Navigator.withinLimit_start initial config) 0 _

/-- A listener that answers the first navigation it hears of by another one. -/
def restless : List (Reaction Script.Memory) :=
  [.subscribe "guide" "first" 1 [.move (.navigate "/b" false)] none,
    .move (.navigate "/a" false)].map (Script.react .finish)

/-- With room for two paths, the navigation of the listener pushes the first one out. -/
theorem history_within_limit_restless :
    ∃ before after, chronicle (play Script.behaviour 3 restless
        (new "/" Navigator.roomForTwo {})) =
          before ++ .began 1 (.navigate "/b" false) :: after ∧
      (replayed "/" Navigator.roomForTwo before).Overflows "/b" 2 ∧
      (1, .historyTrimmed 2 1) ∈ log (chronicle (play Script.behaviour 3 restless
        (new "/" Navigator.roomForTwo {}))) := by
  let events := chronicle (play Script.behaviour 3 restless (new "/" Navigator.roomForTwo {}))
  have split : events = events.take 3 ++ .began 1 (.navigate "/b" false) :: events.drop 4 := by
    decide +kernel
  have overflows :
      (replayed "/" Navigator.roomForTwo (events.take 3)).Overflows "/b" 2 := by
    decide +kernel
  refine ⟨_, _, split, overflows, ?_⟩
  have limits := history_within_limit Script.behaviour 3 restless "/" Navigator.roomForTwo {}
  exact (limits.2.2.2.1 1 2 1).mpr ⟨rfl, _, _, _, split, overflows⟩

end Session

end Router
