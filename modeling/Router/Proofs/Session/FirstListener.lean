import Router.Proofs.Navigator.Effective
import Router.Proofs.Session.Audience

namespace Router

/-! ## The first listener

A listener that is subscribed before all others is called before all others, and so it
hears of a move before anybody can make the next one. What it has heard and what it is
about to hear always add up to what the effective moves have announced since. -/

/-- What the event tells a listener, with the number of the move. -/
def Event.toldTo? (listener : Listener) : Event → Option (Nat × Option Action)
  | .called number other heard _ => if other = listener then some (number, heard) else none
  | _ => none

/-- Whether the event neither subscribes the listener nor drops a subscription of it. -/
def Event.Keeps (event : Event) (listener : Listener) : Prop :=
  event ≠ .subscribed listener ∧ event.dropped? ≠ some listener

namespace Session

/-- All that a listener hears, in order, with the numbers of the moves it is told of. -/
def heardBy (listener : Listener) (events : List Event) : List (Nat × Option Action) :=
  events.filterMap (Event.toldTo? listener)

theorem heardBy_cons (listener : Listener) (event : Event) (events : List Event) :
    heardBy listener (event :: events) =
      (event.toldTo? listener).toList ++ heardBy listener events := by
  rw [heardBy, List.filterMap_cons]
  cases event.toldTo? listener <;> rfl

/-- The listener comes before all others, and only once. -/
def Foremost (listener : Listener) (listeners : List Listener) : Prop :=
  ∃ others, listeners = listener :: others ∧ listener ∉ others

namespace Foremost

variable {listener other : Listener} {listeners : List Listener}

theorem mem (foremost : Foremost listener listeners) : listener ∈ listeners := by
  rcases foremost with ⟨others, rfl, -⟩
  exact List.mem_cons_self

theorem of_cons (foremost : Foremost listener (other :: listeners)) :
    other = listener ∧ listener ∉ listeners := by
  rcases foremost with ⟨others, same, absent⟩
  cases same
  exact ⟨rfl, absent⟩

theorem append (foremost : Foremost listener listeners) (different : other ≠ listener) :
    Foremost listener (listeners ++ [other]) := by
  rcases foremost with ⟨others, rfl, absent⟩
  exact ⟨others ++ [other], rfl, by simp [absent, different.symm]⟩

theorem eraseP (foremost : Foremost listener listeners) {drops : Listener → Bool}
    (spared : listeners.find? drops ≠ some listener) :
    Foremost listener (listeners.eraseP drops) := by
  rcases foremost with ⟨others, rfl, absent⟩
  have kept : ¬drops listener := fun dropped => spared (List.find?_cons_of_pos dropped)
  refine ⟨others.eraseP drops, ?_, fun member => absent (List.mem_of_mem_eraseP member)⟩
  exact List.eraseP_cons_of_neg kept

end Foremost

/-- While the listener is still to be called on account of a move, nobody else has been
called on its account. -/
def Round.Led (round : Round) (listener : Listener) : Prop :=
  listener ∈ round.waiting →
    round.calling = none ∧ round.failure = none ∧ Foremost listener round.waiting

theorem Round.Led.of_called {round : Round} {listener other : Listener}
    {waiting : List Listener} (led : round.Led listener)
    (next : round.waiting = other :: waiting) :
    listener ∉ waiting ∧ (listener ∈ round.waiting ↔ other = listener) := by
  rw [next]
  by_cases member : listener ∈ round.waiting
  · have foremost := (led member).2.2
    rw [next] at foremost
    rcases foremost.of_cons with ⟨rfl, absent⟩
    exact ⟨absent, by simp⟩
  · rw [next, List.mem_cons, not_or] at member
    refine ⟨member.2, ?_⟩
    simp [member.2, eq_comm]

namespace Moment

/-- The listener comes first wherever it is subscribed or still to be called. -/
structure Led (moment : Moment) (listener : Listener) : Prop where
  within : moment.navigator.WithinLimit
  subscribed : Foremost listener moment.subscribers
  rounds : ∀ round ∈ moment.rounds, round.Led listener

/-- What the listener is about to hear. -/
def untold (moment : Moment) (listener : Listener) : List (Nat × Option Action) :=
  match moment.rounds with
  | [] => []
  | round :: _ => if listener ∈ round.waiting then [(round.number, round.news)] else []

variable {moment : Moment} {listener : Listener}

theorem untold_of_innermost {round : Round} {rounds : List Round}
    (under : moment.rounds = round :: rounds) :
    moment.untold listener =
      if listener ∈ round.waiting then [(round.number, round.news)] else [] := by
  rw [untold, under]

/-- Whenever a move can be made, the listener has heard of all moves before. -/
theorem Led.untold_eq_nil (led : moment.Led listener) (free : moment.Open) :
    moment.untold listener = [] := by
  unfold untold
  split
  · rfl
  · next round rounds under =>
      refine if_neg fun member => ?_
      exact free round (by simp [under]) (led.rounds round (by simp [under]) member).1

theorem Led.of_innermost (led : moment.Led listener) {round later : Round}
    {rounds : List Round} (under : moment.rounds = round :: rounds)
    (innermost : later.Led listener) :
    ({ moment with rounds := later :: rounds } : Moment).Led listener := by
  have former := led.rounds
  rw [under, List.forall_mem_cons] at former
  exact ⟨led.within, led.subscribed, List.forall_mem_cons.mpr ⟨innermost, former.2⟩⟩

end Moment

section

variable {before after : Moment} {event : Event} {listener : Listener}

theorem Step.led (step : Step before event after) (keeps : event.Keeps listener)
    (led : before.Led listener) : after.Led listener := by
  cases step with
  | began free move =>
      have effect := Navigator.effect_apply led.within move
      refine ⟨effect.withinLimit led.within, led.subscribed,
        List.forall_mem_cons.mpr ⟨fun waiting => ⟨rfl, rfl, ?_⟩, led.rounds⟩⟩
      simp only [Moment.audience] at waiting ⊢
      split at waiting
      · next announced => simpa [announced] using led.subscribed
      · cases waiting
  | subscribed free other =>
      have different : other ≠ listener := fun same => keeps.1 (congrArg _ same)
      exact ⟨led.within, led.subscribed.append different, led.rounds⟩
  | unsubscribed free other =>
      exact ⟨led.within, led.subscribed.eraseP keeps.2, led.rounds⟩
  | @logged round rounds record records under next =>
      exact led.of_innermost under (led.rounds round (by simp [under]))
  | @called round rounds other waiting heard under reported idle intact next =>
      have former := led.rounds round (by simp [under])
      exact led.of_innermost under fun member => absurd member (former.of_called next).1
  | @answered round rounds other under calling =>
      have former := led.rounds round (by simp [under])
      refine led.of_innermost under fun member => ?_
      rw [(former member).1] at calling
      cases calling
  | ended under =>
      have former := led.rounds
      rw [under, List.forall_mem_cons] at former
      exact ⟨led.within, led.subscribed, former.2⟩

/-- What the listener is told of, it was about to hear, and it is about to hear of each
effective move that begins. -/
theorem Step.told (step : Step before event after) (keeps : event.Keeps listener)
    (led : before.Led listener) (nested : before.Nested) :
    (event.toldTo? listener).toList ++ after.untold listener =
      before.untold listener ++
        before.navigator.newsAlong before.moves.length event.move?.toList := by
  have afterLed := step.led keeps led
  cases step with
  | began free move =>
      have effect := Navigator.effect_apply led.within move
      have subscribed := led.subscribed.mem
      rw [led.untold_eq_nil free, Moment.untold_of_innermost rfl]
      by_cases effective : before.navigator.Effective move
      · have announced := effect.announcement_of_effective effective
        simp [Event.toldTo?, Event.move?, Navigator.newsAlong, Moment.audience, Round.news,
          announced, effective, subscribed]
      · have silent := (effect.of_not_effective effective).2
        simp [Event.toldTo?, Event.move?, Navigator.newsAlong, Moment.audience, silent,
          effective]
  | subscribed | unsubscribed => exact (List.append_nil _).symm
  | logged under =>
      rw [Moment.untold_of_innermost under]
      exact (List.append_nil _).symm
  | @called round rounds other waiting heard under reported idle intact next told =>
      rcases (led.rounds round (by simp [under])).of_called next with ⟨absent, isNext⟩
      rw [Moment.untold_of_innermost under, Moment.untold_of_innermost rfl, if_neg absent]
      by_cases same : other = listener
      · simp [Event.toldTo?, Event.move?, Navigator.newsAlong, Round.news, told, same,
          isNext.mpr same]
      · simp [Event.toldTo?, Event.move?, Navigator.newsAlong, same, mt isNext.mp same]
  | answered under =>
      rw [Moment.untold_of_innermost under]
      exact (List.append_nil _).symm
  | @ended round rounds under reported idle complete =>
      have heard : listener ∉ round.waiting := by
        intro member
        have intact := (led.rounds round (by simp [under]) member).2.1
        rw [complete intact] at member
        cases member
      rw [afterLed.untold_eq_nil (nested.open_outside under),
        Moment.untold_of_innermost under, if_neg heard]
      rfl

end

theorem Course.told {first last : Moment} {events : List Event} {listener : Listener}
    (course : Course first events last) (keeps : ∀ event ∈ events, event.Keeps listener)
    (led : first.Led listener) (nested : first.Nested) :
    last.Led listener ∧
    heardBy listener events ++ last.untold listener =
      first.untold listener ++
        first.navigator.newsAlong first.moves.length (movesBegun events) := by
  induction course with
  | nil => exact ⟨led, (List.append_nil _).symm⟩
  | @cons first middle last event events step _ induction =>
      have keepsNow := keeps event List.mem_cons_self
      rcases induction (fun other member => keeps other (List.mem_cons_of_mem _ member))
        (step.led keepsNow led) (step.nested nested) with ⟨lastLed, rest⟩
      refine ⟨lastLed, ?_⟩
      rw [step.navigator, step.moves, List.length_append] at rest
      rw [heardBy_cons, List.append_assoc, rest, ← List.append_assoc,
        step.told keepsNow led nested, List.append_assoc, movesBegun_cons,
        Navigator.newsAlong_append]

/-! ### Before anybody is subscribed -/

/-- Nobody is subscribed or still to be called. -/
structure Moment.Deserted (moment : Moment) : Prop where
  subscribers : moment.subscribers = []
  rounds : ∀ round ∈ moment.rounds, round.waiting = []

theorem Step.deserted {before after : Moment} {event : Event}
    (step : Step before event after) (nobody : ∀ listener, event ≠ .subscribed listener)
    (deserted : before.Deserted) : after.Deserted ∧ event.listener? = none := by
  have rounds := deserted.rounds
  cases step with
  | began free move =>
      have audience : before.audience (before.navigator.apply move) = [] := by
        simp [Moment.audience, deserted.subscribers]
      exact ⟨⟨deserted.subscribers, List.forall_mem_cons.mpr ⟨audience, rounds⟩⟩, rfl⟩
  | subscribed free listener => exact absurd rfl (nobody listener)
  | unsubscribed free listener =>
      refine ⟨⟨?_, rounds⟩, rfl⟩
      rw [deserted.subscribers]
      rfl
  | logged under | answered under =>
      rw [under, List.forall_mem_cons] at rounds
      exact ⟨⟨deserted.subscribers, List.forall_mem_cons.mpr rounds⟩, rfl⟩
  | called under reported idle intact next =>
      rw [under, List.forall_mem_cons, next] at rounds
      cases rounds.1
  | ended under =>
      rw [under, List.forall_mem_cons] at rounds
      exact ⟨⟨deserted.subscribers, rounds.2⟩, rfl⟩

theorem Course.deserted {first last : Moment} {events : List Event}
    (course : Course first events last)
    (nobody : ∀ listener, Event.subscribed listener ∉ events) (deserted : first.Deserted) :
    last.Deserted ∧ ∀ event ∈ events, event.listener? = none := by
  induction course with
  | nil => exact ⟨deserted, fun _ member => (nomatch member)⟩
  | @cons first middle last event events step _ induction =>
      have nobodyNow : ∀ listener, event ≠ .subscribed listener :=
        fun listener same => nobody listener (by rw [same]; exact List.mem_cons_self)
      rcases step.deserted nobodyNow deserted with ⟨middleDeserted, silent⟩
      rcases induction (fun listener member => nobody listener (List.mem_cons_of_mem _ member))
        middleDeserted with ⟨lastDeserted, rest⟩
      refine ⟨lastDeserted, fun other member => ?_⟩
      rcases List.mem_cons.mp member with rfl | member
      · exact silent
      · exact rest other member

theorem heardBy_eq_nil {events : List Event} (listener : Listener)
    (silent : ∀ event ∈ events, event.listener? = none) : heardBy listener events = [] := by
  refine List.filterMap_eq_nil_iff.mpr fun event member => ?_
  have nobody := silent event member
  cases event with
  | called => cases nobody
  | began | subscribed | unsubscribed | logged | answered | ended => rfl

/-- A listener that nobody is subscribed before, and that keeps its only subscription,
hears of all effective moves from then on, of each once and in order. -/
theorem Course.heardBy_of_first {initial : String} {config : Config}
    {earlier later : List Event} {listener : Listener} {last : Moment}
    (course : Course (.new initial config) (earlier ++ .subscribed listener :: later) last)
    (free : last.Open) (nobody : ∀ other, Event.subscribed other ∉ earlier)
    (once : Event.subscribed listener ∉ later)
    (stays : ∀ event ∈ later, event.dropped? ≠ some listener) :
    let events := earlier ++ .subscribed listener :: later
    (Navigator.start initial config).newsAlong 0 (movesBegun events) =
      (Navigator.start initial config).newsAlong 0 (movesBegun earlier) ++
        heardBy listener events := by
  intro events
  rcases course.step_at with ⟨moment, joined, left, step, right⟩
  rcases left.deserted nobody ⟨rfl, fun _ member => (nomatch member)⟩ with ⟨deserted, silent⟩
  have within : moment.navigator.WithinLimit := by
    rw [left.navigator]
    exact (Navigator.withinLimit_start initial config).applyAll _
  have nested := step.nested (left.nested (nested_new initial config))
  have keeps : ∀ event ∈ later, event.Keeps listener := fun event member =>
    ⟨fun same => once (same ▸ member), stays event member⟩
  cases step with
  | subscribed joining =>
      have led : ({ moment with subscribers := moment.subscribers ++ [listener] } :
          Moment).Led listener := by
        refine ⟨within, ⟨[], ?_, List.not_mem_nil⟩, fun round member waiting => ?_⟩
        · rw [deserted.subscribers]
          rfl
        · rw [deserted.rounds round member] at waiting
          cases waiting
      rcases right.told keeps led nested with ⟨lastLed, told⟩
      rw [lastLed.untold_eq_nil free, led.untold_eq_nil joining, List.append_nil,
        List.nil_append] at told
      have heard : heardBy listener events = heardBy listener later := by
        rw [heardBy, List.filterMap_append]
        exact congrArg (· ++ _) (heardBy_eq_nil listener silent)
      rw [heard, told, movesBegun_append, Navigator.newsAlong_append, Nat.zero_add,
        left.navigator_new, left.moves_new]
      rfl

end Session

end Router
