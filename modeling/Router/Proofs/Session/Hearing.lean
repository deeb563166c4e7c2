import Router.Proofs.Navigator.Effect
import Router.Proofs.Session.Audience

namespace Router

/-! ## What listeners hear

A listener is told of the move it is called for. By then another listener may have
moved the navigator on, and so what it hears need not be the last action any more. It
is, unless a move begun in the meantime was announced differently. -/

namespace Navigator

/-- What is announced by moves made one after the other. -/
def announcedAlong : Navigator → List Move → List (Option Action)
  | _, [] => []
  | navigator, move :: moves =>
      (navigator.apply move).announcement.toList ++
        announcedAlong (navigator.apply move).navigator moves

/-- The last action leads to the current path. -/
def LedHere (navigator : Navigator) : Prop :=
  ∀ action ∈ navigator.lastAction, action.current = navigator.path

theorem Effect.lastAction {navigator : Navigator} {move : Move} {step : Step}
    (effect : Effect navigator move step) :
    step.navigator.lastAction = step.announcement.getD navigator.lastAction := by
  cases effect <;> rfl

theorem Effect.ledHere {navigator : Navigator} {move : Move} {step : Step}
    (effect : Effect navigator move step) (led : navigator.LedHere) :
    step.navigator.LedHere := by
  cases effect with
  | ignored | stayedBack | stayedForward => exact led
  | replaced | pushed | overflowed | retreated | advanced =>
      intro action last
      cases last
      rfl
  | cleared =>
      intro action last
      cases last

theorem lastAction_applyAll {navigator : Navigator} (within : navigator.WithinLimit)
    (moves : List Move) :
    (navigator.applyAll moves).lastAction =
      (navigator.announcedAlong moves).getLast?.getD navigator.lastAction := by
  induction moves generalizing navigator with
  | nil => rfl
  | cons move moves induction =>
      have effect := effect_apply within move
      rw [applyAll_cons, induction (effect.withinLimit within), effect.lastAction,
        announcedAlong, List.getLast?_append]
      cases (announcedAlong (navigator.apply move).navigator moves).getLast? with
      | some latest => rfl
      | none => cases (navigator.apply move).announcement <;> rfl

/-- The last action stays what it is unless something else is announced. -/
theorem eq_lastAction_applyAll_iff {navigator : Navigator} (within : navigator.WithinLimit)
    {heard : Option Action} (told : navigator.lastAction = heard) (moves : List Move) :
    heard = (navigator.applyAll moves).lastAction ↔
      ∀ other ∈ (navigator.announcedAlong moves).getLast?, other = heard := by
  rw [lastAction_applyAll within, told]
  cases (navigator.announcedAlong moves).getLast? with
  | none => simp
  | some latest => simp [eq_comm]

theorem ledHere_applyAll {navigator : Navigator} (within : navigator.WithinLimit)
    (led : navigator.LedHere) (moves : List Move) : (navigator.applyAll moves).LedHere := by
  induction moves generalizing navigator with
  | nil => exact led
  | cons move moves induction =>
      have effect := effect_apply within move
      exact induction (effect.withinLimit within) (effect.ledHere led)

end Navigator

/-- Whether a listener, if the event calls one, is told of the last action, and is told
that it led to the current path. -/
def Event.Truthful : Event → Prop
  | .called _ _ heard navigator =>
      heard = navigator.lastAction ∧ ∀ action ∈ heard, action.current = navigator.path
  | _ => True

instance : DecidablePred Event.Truthful
  | .called _ _ heard navigator =>
      inferInstanceAs (Decidable
        (heard = navigator.lastAction ∧ ∀ action ∈ heard, action.current = navigator.path))
  | .began _ _ | .subscribed _ | .unsubscribed _ _ | .logged _ _ | .answered _ _ _
  | .ended _ _ _ => .isTrue trivial

namespace Session

/-- What was announced last by the moves of a new navigator after the one of the given
number, if anything was. -/
def latestSince (initial : String) (config : Config) (number : Nat) (moves : List Move) :
    Option (Option Action) :=
  (((Navigator.start initial config).applyAll (moves.take (number + 1))).announcedAlong
    (moves.drop (number + 1))).getLast?

theorem ledHere_replayed (initial : String) (config : Config) (events : List Event) :
    (replayed initial config events).LedHere := by
  apply Navigator.ledHere_applyAll (Navigator.withinLimit_start initial config)
  intro action last
  cases last

section

variable {initial : String} {config : Config} {last : Moment}

theorem Course.heard_of_called {before after : List Event} {number : Nat}
    {listener : Listener} {heard : Option Action} {seen : Navigator}
    (course : Course (.new initial config)
      (before ++ .called number listener heard seen :: after) last) :
    ∃ earlier move later, movesBegun before = earlier ++ move :: later ∧
      number = earlier.length ∧
      (((Navigator.start initial config).applyAll earlier).apply move).announcement =
        some heard := by
  rcases course.step_at with ⟨moment, next, left, step, -⟩
  cases step with
  | @called round rounds listener waiting heard under reported idle intact next told =>
      rcases left.round_began round (by simp [under]) with
        ⟨earlier, move, later, rfl, did, -⟩
      refine ⟨movesBegun earlier, move, movesBegun later, ?_, left.number_began, ?_⟩
      · rw [movesBegun_append, movesBegun_cons]
        rfl
      · rw [← told, did]
        rfl

/-- What a listener was told is the last action at any later point as well, unless a
move begun since was announced differently. -/
theorem Course.heard_eq_lastAction_iff {before after : List Event} {number : Nat}
    {listener : Listener} {heard : Option Action} {seen : Navigator}
    (course : Course (.new initial config)
      (before ++ .called number listener heard seen :: after) last) (more : List Move) :
    heard = ((Navigator.start initial config).applyAll (movesBegun before ++ more)).lastAction ↔
      ∀ other ∈ latestSince initial config number (movesBegun before ++ more),
        other = heard := by
  rcases course.heard_of_called with ⟨earlier, move, later, moves, rfl, told⟩
  have within := Navigator.withinLimit_start initial config
  -- right after its own move, what the listener is told is the last action
  have toldLast :
      ((Navigator.start initial config).applyAll (earlier ++ [move])).lastAction = heard := by
    have effect := Navigator.effect_apply (within.applyAll earlier) move
    rw [Navigator.applyAll_append]
    exact effect.lastAction.trans (by rw [told]; rfl)
  have regrouped : movesBegun before ++ more = earlier ++ [move] ++ (later ++ more) := by
    rw [moves]
    simp
  have position : earlier.length + 1 = (earlier ++ [move]).length := by
    rw [List.length_append, List.length_singleton]
  rw [regrouped, latestSince, position, List.take_left, List.drop_left,
    Navigator.applyAll_append _ (earlier ++ [move])]
  exact Navigator.eq_lastAction_applyAll_iff (within.applyAll _) toldLast _

end

theorem exists_last_call {events : List Event} {listener : Listener}
    (called : ∃ event ∈ events, event.listener? = some listener) :
    ∃ earlier number heard seen later,
      events = earlier ++ .called number listener heard seen :: later ∧
      ∀ event ∈ later, event.listener? ≠ some listener := by
  induction events using List.reverseRecOn with
  | nil => simp at called
  | append_singleton events event induction =>
      by_cases calls : event.listener? = some listener
      · cases event with
        | called number other heard seen =>
            cases calls
            exact ⟨events, number, heard, seen, [], rfl, fun _ member => (nomatch member)⟩
        | began | subscribed | unsubscribed | logged | answered | ended => cases calls
      · have before : ∃ other ∈ events, other.listener? = some listener := by
          rcases called with ⟨other, member, calledBy⟩
          rcases List.mem_append.mp member with member | member
          · exact ⟨other, member, calledBy⟩
          · rw [List.mem_singleton.mp member] at calledBy
            exact absurd calledBy calls
        rcases induction before with ⟨earlier, number, heard, seen, later, rfl, silent⟩
        refine ⟨earlier, number, heard, seen, later ++ [event], by simp, ?_⟩
        intro other member
        rcases List.mem_append.mp member with member | member
        · exact silent other member
        · rw [List.mem_singleton.mp member]
          exact calls

variable {Memory : Type}

/-- A listener hears the last action exactly if nothing else was announced last since
the move it is told of. And of all who were subscribed when a move with something to
announce began, each has heard something by the time the move ends without a failure;
what it heard last is the last action then under the same condition. -/
theorem truthful_iff_latestSince (behaviour : Behaviour Memory) (depth : Nat)
    (clients : List (Reaction Memory)) (initial : String) (config : Config)
    (memory : Memory) :
    let events := chronicle (play behaviour depth clients (new initial config memory))
    (∀ before number listener heard seen after,
      events = before ++ .called number listener heard seen :: after →
      ((Event.called number listener heard seen).Truthful ↔
        ∀ other ∈ latestSince initial config number (movesBegun before),
          other = heard)) ∧
    (∀ before number final after, events = before ++ .ended number none final :: after →
      ∃ earlier move during, before = earlier ++ .began number move :: during ∧
        (((replayed initial config earlier).apply move).announcement ≠ none →
          ∀ listener ∈ subscribersAfter earlier, ∃ calls account heard seen rest,
            during = calls ++ .called account listener heard seen :: rest ∧
            (∀ event ∈ rest, event.listener? ≠ some listener) ∧
            (heard = final.lastAction ↔
              ∀ other ∈ latestSince initial config account (movesBegun before),
                other = heard))) := by
  intro events
  rcases course_chronicle behaviour depth clients initial config memory
    with ⟨last, course, -⟩
  change Course _ events last at course
  constructor
  · intro before number listener heard seen after split
    rw [split] at course
    have current := course.heard_eq_lastAction_iff []
    rw [List.append_nil] at current
    rw [← current, show seen = replayed initial config before from course.navigator_at rfl]
    constructor
    · exact fun truthful => truthful.1
    · intro same
      have led := ledHere_replayed initial config before
      exact ⟨same, by rw [same]; exact led⟩
  · intro before number final after split
    rw [split] at course
    rcases course.called_of_ended with ⟨earlier, move, during, rfl, audience⟩
    refine ⟨earlier, move, during, rfl, fun announced listener subscribed => ?_⟩
    rw [if_pos (Option.isSome_iff_ne_none.mpr announced)] at audience
    rcases exists_last_call (mem_callsOf (audience ▸ subscribed)) with
      ⟨calls, account, heard, seen, rest, rfl, silent⟩
    refine ⟨calls, account, heard, seen, rest, rfl, silent, ?_⟩
    have moves : movesBegun (earlier ++ .began number move ::
          (calls ++ .called account listener heard seen :: rest)) =
        movesBegun (earlier ++ .began number move :: calls) ++ movesBegun rest := by
      simp [movesBegun_cons, Event.move?]
    have ending : final = replayed initial config _ := course.navigator_at rfl
    have regrouped :
        earlier ++ .began number move ::
            (calls ++ .called account listener heard seen :: rest) ++
          .ended number none final :: after =
        earlier ++ .began number move :: calls ++ .called account listener heard seen ::
          (rest ++ .ended number none final :: after) := by
      simp
    rw [regrouped] at course
    rw [ending, replayed, moves]
    exact course.heard_eq_lastAction_iff (movesBegun rest)

/-- One listener goes back when it hears of a navigation, another one only listens. -/
def backtracking : List (Reaction Script.Memory) :=
  [.subscribe "guard" "first" 1 [.move (.back 1)] none,
    .subscribe "mirror" "second" 0 [] none,
    .move (.navigate "a" false)].map (Script.react .finish)

/-- The listener that only listens is told in time of the way back, about which nothing
was announced later. -/
theorem truthful_iff_latestSince_backtracking :
    ∃ before seen after,
      chronicle (play Script.behaviour 3 backtracking (new "/" {} {})) =
        before ++ .called 1 "mirror" (some (.between "/a" "/" .back)) seen :: after ∧
      (Event.called 1 "mirror" (some (.between "/a" "/" .back)) seen).Truthful := by
  let events := chronicle (play Script.behaviour 3 backtracking (new "/" {} {}))
  have split : events = events.take 7 ++
      .called 1 "mirror" (some (.between "/a" "/" .back)) (replayed "/" {} (events.take 7)) ::
        events.drop 8 := by
    decide +kernel
  have nothingSince : ∀ other ∈ latestSince "/" {} 1 (movesBegun (events.take 7)),
      other = some (.between "/a" "/" .back) := by
    decide +kernel
  have hears := truthful_iff_latestSince Script.behaviour 3 backtracking "/" {} {}
  exact ⟨_, _, _, split, (hears.1 _ _ _ _ _ _ split).mpr nothingSince⟩

/-- Afterwards the same listener is told of the navigation that was taken back, and
hears nothing more before the navigation is over. -/
theorem not_truthful_backtracking :
    ∃ before seen final,
      chronicle (play Script.behaviour 3 backtracking (new "/" {} {})) =
        before ++ [.called 0 "mirror" (some (.between "/" "/a" .push)) seen,
          .answered 0 "mirror" none, .ended 0 none final] ∧
      ¬(Event.called 0 "mirror" (some (.between "/" "/a" .push)) seen).Truthful ∧
      final.lastAction = some (.between "/a" "/" .back) := by
  let events := chronicle (play Script.behaviour 3 backtracking (new "/" {} {}))
  let state := replayed "/" {} (events.take 11)
  exact ⟨events.take 11, state, state, by decide +kernel, by decide +kernel,
    by decide +kernel⟩

end Session

end Router
