import Router.Proofs.Session.Replay

namespace Router

/-! ## Who is told of a move

Whoever is subscribed when a move begins is called on its account. The calls come in
the order of subscription, and when a move ends without a failure all of them were
made. -/

namespace Event

def listener? : Event → Option Listener
  | .called _ listener _ _ => some listener
  | _ => none

/-- The listener whose subscription the event drops. -/
def dropped? : Event → Option Listener
  | .unsubscribed _ dropped => dropped
  | _ => none

/-- On account of which move the event calls a listener or tells of the answer. -/
def account? : Event → Option Nat
  | .called number _ _ _ => some number
  | .answered number _ _ => some number
  | _ => none

/-- The listener that an event calls on account of the move of the given number, with
what it is told. -/
def hearing? (number : Nat) : Event → Option (Listener × Option Action)
  | .called account listener heard _ =>
      if account = number then some (listener, heard) else none
  | _ => none

/-- The listener whose call on account of the move of the given number is over, with its
failure, if any. -/
def answer? (number : Nat) : Event → Option (Listener × Option String)
  | .answered account listener failure =>
      if account = number then some (listener, failure) else none
  | _ => none

def update (subscribers : List Listener) : Event → List Listener
  | .subscribed listener => subscribers ++ [listener]
  | .unsubscribed listener _ => subscribers.eraseP listener.equals
  | _ => subscribers

theorem hearing?_eq_none {number : Nat} {event : Event}
    (other : event.account? ≠ some number) : event.hearing? number = none := by
  cases event with
  | called account listener heard seen =>
      exact if_neg fun same => other (congrArg some same)
  | began | subscribed | unsubscribed | logged | answered | ended => rfl

theorem answer?_eq_none {number : Nat} {event : Event}
    (other : event.account? ≠ some number) : event.answer? number = none := by
  cases event with
  | answered account listener failure =>
      exact if_neg fun same => other (congrArg some same)
  | began | subscribed | unsubscribed | logged | called | ended => rfl

end Event

namespace Session

/-- The subscribers after the given events of a session that began without any. -/
def subscribersAfter (events : List Event) : List Listener :=
  events.foldl Event.update []

/-- The calls made on account of the move of the given number, in order. -/
def hearings (number : Nat) (events : List Event) : List (Listener × Option Action) :=
  events.filterMap (Event.hearing? number)

/-- The calls on account of the move of the given number that are over, in order. -/
def answers (number : Nat) (events : List Event) : List (Listener × Option String) :=
  events.filterMap (Event.answer? number)

/-- The listeners called on account of the move of the given number, in order. -/
def callsOf (number : Nat) (events : List Event) : List Listener :=
  (hearings number events).map (·.1)

theorem mem_callsOf {number : Nat} {events : List Event} {listener : Listener}
    (member : listener ∈ callsOf number events) :
    ∃ event ∈ events, event.listener? = some listener := by
  rcases List.mem_map.mp member with ⟨⟨found, told⟩, hearing, rfl⟩
  rcases List.mem_filterMap.mp hearing with ⟨event, mem, calls⟩
  refine ⟨event, mem, ?_⟩
  cases event with
  | called account other heard seen =>
      simp only [Event.hearing?, Option.ite_none_right_eq_some, Option.some_inj] at calls
      exact congrArg (some ·.1) calls.2
  | began | subscribed | unsubscribed | logged | answered | ended => cases calls

section

variable {number : Nat} {events later : List Event}

theorem hearings_append : hearings number (events ++ later) =
    hearings number events ++ hearings number later :=
  List.filterMap_append

theorem answers_append : answers number (events ++ later) =
    answers number events ++ answers number later :=
  List.filterMap_append

@[simp] theorem hearings_called (number : Nat) (listener : Listener) (heard : Option Action)
    (seen : Navigator) :
    hearings number [.called number listener heard seen] = [(listener, heard)] := by
  simp [hearings, Event.hearing?]

@[simp] theorem hearings_answered (number account : Nat) (listener : Listener)
    (failure : Option String) : hearings number [.answered account listener failure] = [] :=
  rfl

@[simp] theorem answers_called (number account : Nat) (listener : Listener)
    (heard : Option Action) (seen : Navigator) :
    answers number [.called account listener heard seen] = [] :=
  rfl

@[simp] theorem answers_answered (number : Nat) (listener : Listener)
    (failure : Option String) :
    answers number [.answered number listener failure] = [(listener, failure)] := by
  simp [answers, Event.answer?]

theorem hearings_append_of_other (other : ∀ event ∈ later, event.account? ≠ some number) :
    hearings number (events ++ later) = hearings number events := by
  have none : hearings number later = [] :=
    List.filterMap_eq_nil_iff.mpr fun event member => Event.hearing?_eq_none (other event member)
  rw [hearings_append, none, List.append_nil]

theorem answers_append_of_other (other : ∀ event ∈ later, event.account? ≠ some number) :
    answers number (events ++ later) = answers number events := by
  have none : answers number later = [] :=
    List.filterMap_eq_nil_iff.mpr fun event member => Event.answer?_eq_none (other event member)
  rw [answers_append, none, List.append_nil]

end

/-! ### Where moves under way come from -/

theorem Step.subscribers {before after : Moment} {event : Event}
    (step : Step before event after) :
    after.subscribers = event.update before.subscribers := by
  cases step <;> rfl

theorem Course.subscribers {first last : Moment} {events : List Event}
    (course : Course first events last) :
    last.subscribers = events.foldl Event.update first.subscribers := by
  induction course with
  | nil => rfl
  | cons step _ induction => rw [induction, step.subscribers, List.foldl_cons]

/-- A move under way has just begun or was under way before. -/
theorem Step.round {before after : Moment} {event : Event}
    (step : Step before event after) {round : Round} (under : round ∈ after.rounds) :
    (∃ former ∈ before.rounds, former.number = round.number ∧ former.step = round.step ∧
      former.audience = round.audience) ∨
    ∃ move, event = .began round.number move ∧
      round.step = before.navigator.apply move ∧
      round.audience = before.audience round.step := by
  cases step with
  | began free move =>
      rcases List.mem_cons.mp under with rfl | member
      · exact .inr ⟨move, rfl, rfl, rfl⟩
      · exact .inl ⟨round, member, rfl, rfl, rfl⟩
  | subscribed | unsubscribed => exact .inl ⟨round, under, rfl, rfl, rfl⟩
  | logged innermost | called innermost | answered innermost =>
      rw [innermost]
      rcases List.mem_cons.mp under with rfl | member
      · exact .inl ⟨_, List.mem_cons_self, rfl, rfl, rfl⟩
      · exact .inl ⟨round, List.mem_cons_of_mem _ member, rfl, rfl, rfl⟩
  | ended innermost =>
      rw [innermost]
      exact .inl ⟨round, List.mem_cons_of_mem _ under, rfl, rfl, rfl⟩

/-- The events among which a move under way began, and what it brought about then. -/
def Round.Began (round : Round) (initial : String) (config : Config)
    (events : List Event) : Prop :=
  ∃ before move after, events = before ++ .began round.number move :: after ∧
    round.step = (replayed initial config before).apply move ∧
    round.audience =
      if round.step.announcement.isSome then subscribersAfter before else []

section

variable {initial : String} {config : Config} {events : List Event} {last : Moment}

theorem Course.round_began (course : Course (.new initial config) events last) :
    ∀ round ∈ last.rounds, round.Began initial config events := by
  induction course using Course.induction_on_last with
  | nil =>
      intro round member
      cases member
  | @snoc earlier event before after course step induction =>
      intro round under
      rcases step.round under with ⟨former, member, number, did, audience⟩ |
        ⟨move, rfl, did, audience⟩
      · rcases induction former member with ⟨start, move, rest, rfl, didThen, audienceThen⟩
        refine ⟨start, move, rest ++ [event], ?_, ?_, ?_⟩
        · rw [number]
          simp
        · rw [← did, didThen]
        · rw [← audience, audienceThen, did]
      · refine ⟨earlier, move, [], rfl, ?_, ?_⟩
        · rw [did, course.navigator_new]
        · rw [audience, Moment.audience, course.subscribers]
          rfl

end

/-! ### Calls on account of a move -/

/-- Moves under way have been numbered, and the inner ones after the outer ones. -/
structure Moment.Numbered (moment : Moment) : Prop where
  begun : ∀ round ∈ moment.rounds, round.number < moment.moves.length
  later : moment.rounds.Pairwise fun inner outer => outer.number < inner.number

theorem Moment.Numbered.of_innermost {before : Moment} (numbered : before.Numbered)
    {round later : Round} {rounds : List Round} (under : before.rounds = round :: rounds)
    (number : later.number = round.number) :
    ({ before with rounds := later :: rounds } : Moment).Numbered := by
  have begun := numbered.begun
  have ordered := numbered.later
  rw [under, List.forall_mem_cons] at begun
  rw [under, List.pairwise_cons] at ordered
  constructor
  · rw [List.forall_mem_cons, number]
    exact begun
  · rw [List.pairwise_cons, number]
    exact ordered

theorem Step.numbered {before after : Moment} {event : Event}
    (step : Step before event after) (numbered : before.Numbered) : after.Numbered := by
  cases step with
  | began free move =>
      constructor
      · intro round member
        rw [Moment.moved, List.length_append]
        rcases List.mem_cons.mp member with rfl | member
        · exact Nat.lt_succ_self _
        · exact Nat.lt_succ_of_lt (numbered.begun round member)
      · exact List.pairwise_cons.mpr ⟨numbered.begun, numbered.later⟩
  | subscribed | unsubscribed => exact ⟨numbered.begun, numbered.later⟩
  | logged under | called under | answered under => exact numbered.of_innermost under rfl
  | ended under =>
      have begun := numbered.begun
      have ordered := numbered.later
      rw [under, List.forall_mem_cons] at begun
      rw [under, List.pairwise_cons] at ordered
      exact ⟨begun.2, ordered.2⟩

theorem Course.numbered {first last : Moment} {events : List Event}
    (course : Course first events last) (numbered : first.Numbered) : last.Numbered := by
  induction course with
  | nil => exact numbered
  | cons step _ induction => exact induction (step.numbered numbered)

theorem numbered_new (initial : String) (config : Config) :
    (Moment.new initial config).Numbered :=
  ⟨fun _ member => (nomatch member), .nil⟩

/-- What is told on account of a move under way. -/
def Round.news (round : Round) : Option Action :=
  round.step.announcement.getD none

/-- How far the calls on account of a move under way have come. All before the last one
were answered without a failure. -/
inductive Round.Progress (round : Round) (hearings : List (Listener × Option Action))
    (answers : List (Listener × Option String)) : Prop
  | resting (told : List Listener) (idle : round.calling = none)
      (intact : round.failure = none) (audience : round.audience = told ++ round.waiting)
      (heard : hearings = told.map (·, round.news)) (answered : answers = told.map (·, none))
  | calling (told : List Listener) (listener : Listener)
      (called : round.calling = some listener) (intact : round.failure = none)
      (audience : round.audience = told ++ listener :: round.waiting)
      (heard : hearings = (told ++ [listener]).map (·, round.news))
      (answered : answers = told.map (·, none))
  | brokenOff (told : List Listener) (failing : Listener) (message : String)
      (idle : round.calling = none) (failed : round.failure = some message)
      (audience : round.audience = told ++ failing :: round.waiting)
      (heard : hearings = (told ++ [failing]).map (·, round.news))
      (answered : answers = told.map (·, none) ++ [(failing, some message)])

/-- The calls made so far agree with the moves under way, and nobody has been called on
account of a move that has not begun. -/
structure Moment.Progress (moment : Moment) (events : List Event) : Prop where
  none_early : ∀ number, moment.moves.length ≤ number →
    hearings number events = [] ∧ answers number events = []
  rounds : ∀ round ∈ moment.rounds,
    round.Progress (hearings round.number events) (answers round.number events)

namespace Moment.Progress

variable {before after : Moment} {events : List Event} {event : Event}

/-- Most events are about no call. -/
theorem of_silent (progress : before.Progress events) (silent : event.account? = none)
    (moves : before.moves.length ≤ after.moves.length)
    (rounds : ∀ round ∈ after.rounds,
      round.Progress (hearings round.number events) (answers round.number events)) :
    after.Progress (events ++ [event]) := by
  have other : ∀ number, ∀ found ∈ [event], found.account? ≠ some number := by
    intro number found member
    rw [List.mem_singleton.mp member, silent]
    exact (Option.some_ne_none number).symm
  constructor
  · intro number begun
    rw [hearings_append_of_other (other number), answers_append_of_other (other number)]
    exact progress.none_early number (Nat.le_trans moves begun)
  · intro round member
    rw [hearings_append_of_other (other _), answers_append_of_other (other _)]
    exact rounds round member

/-- A call or an answer is about the innermost move alone, as the others have smaller
numbers. -/
theorem of_innermost (progress : before.Progress events) (numbered : before.Numbered)
    {round later : Round} {rounds : List Round} (under : before.rounds = round :: rounds)
    (number : later.number = round.number) (about : event.account? = some round.number)
    (innermost : later.Progress (hearings round.number (events ++ [event]))
      (answers round.number (events ++ [event]))) :
    ({ before with rounds := later :: rounds } : Moment).Progress (events ++ [event]) := by
  have begun := numbered.begun
  have ordered := numbered.later
  have former := progress.rounds
  rw [under, List.forall_mem_cons] at begun former
  rw [under, List.pairwise_cons] at ordered
  have other : ∀ number, round.number ≠ number →
      ∀ found ∈ [event], found.account? ≠ some number := by
    intro number different found member
    rw [List.mem_singleton.mp member, about]
    exact fun same => different (Option.some_inj.mp same)
  constructor
  · intro number later
    have different := other number (Nat.ne_of_lt (Nat.lt_of_lt_of_le begun.1 later))
    rw [hearings_append_of_other different, answers_append_of_other different]
    exact progress.none_early number later
  · rw [List.forall_mem_cons, number]
    refine ⟨innermost, fun outer member => ?_⟩
    have different := other outer.number (Nat.ne_of_gt (ordered.1 outer member))
    rw [hearings_append_of_other different, answers_append_of_other different]
    exact former.2 outer member

end Moment.Progress

theorem Step.progress {before after : Moment} {event : Event} {events : List Event}
    (step : Step before event after) (numbered : before.Numbered)
    (progress : before.Progress events) : after.Progress (events ++ [event]) := by
  cases step with
  | began free move =>
      have none := progress.none_early before.moves.length (Nat.le_refl _)
      refine progress.of_silent rfl (by simp [Moment.moved])
        (List.forall_mem_cons.mpr ⟨?_, progress.rounds⟩)
      rw [none.1, none.2]
      exact .resting [] rfl rfl rfl rfl rfl
  | subscribed | unsubscribed =>
      exact progress.of_silent rfl (Nat.le_refl _) progress.rounds
  | logged under =>
      have former := progress.rounds
      rw [under, List.forall_mem_cons] at former
      refine progress.of_silent rfl (Nat.le_refl _)
        (List.forall_mem_cons.mpr ⟨?_, former.2⟩)
      cases former.1 with
      | resting told idle intact audience heard answered =>
          exact .resting told idle intact audience heard answered
      | calling told listener called intact audience heard answered =>
          exact .calling told listener called intact audience heard answered
      | brokenOff told failing message idle failed audience heard answered =>
          exact .brokenOff told failing message idle failed audience heard answered
  | @called innermost rounds listener waiting heard under reported idle intact next told =>
      refine progress.of_innermost numbered under rfl rfl ?_
      rw [hearings_append, answers_append]
      cases progress.rounds innermost (by simp [under]) with
      | resting done _ _ audience heardBefore answered =>
          rw [next] at audience
          refine .calling done listener rfl intact audience ?_ ?_
          · simp [heardBefore, Round.news, told]
          · simp [answered]
      | calling _ _ called =>
          rw [idle] at called
          cases called
      | brokenOff _ _ _ _ failed =>
          rw [intact] at failed
          cases failed
  | @answered innermost rounds listener under calling failure =>
      refine progress.of_innermost numbered under rfl rfl ?_
      rw [hearings_append, answers_append]
      cases progress.rounds innermost (by simp [under]) with
      | resting _ idle =>
          rw [calling] at idle
          cases idle
      | brokenOff _ _ _ idle =>
          rw [calling] at idle
          cases idle
      | calling done other called intact audience heard answered =>
          cases calling.symm.trans called
          cases failure with
          | none =>
              refine .resting (done ++ [listener]) rfl rfl ?_ ?_ ?_
              · rw [audience, List.append_assoc]
                rfl
              · simp [heard, Round.news]
              · simp [answered]
          | some message =>
              refine .brokenOff done listener message rfl rfl audience ?_ ?_
              · simp [heard, Round.news]
              · simp [answered]
  | ended under =>
      have former := progress.rounds
      rw [under, List.forall_mem_cons] at former
      exact progress.of_silent rfl (Nat.le_refl _) former.2

section

variable {initial : String} {config : Config} {events : List Event} {last : Moment}

theorem Course.progress (course : Course (.new initial config) events last) :
    last.Progress events := by
  induction course using Course.induction_on_last with
  | nil => exact ⟨fun _ _ => ⟨rfl, rfl⟩, fun _ member => (nomatch member)⟩
  | snoc course step induction =>
      exact step.progress (course.numbered (numbered_new initial config)) induction

/-- When a move ends without a failure, everybody has been called on its account who
was subscribed when it began, unless there was nothing to tell. -/
theorem Course.called_of_ended {before after : List Event} {number : Nat}
    {final : Navigator}
    (course : Course (.new initial config) (before ++ .ended number none final :: after) last) :
    ∃ earlier move during, before = earlier ++ .began number move :: during ∧
      callsOf number during =
        if ((replayed initial config earlier).apply move).announcement.isSome then
          subscribersAfter earlier
        else [] := by
  rcases course.step_at with ⟨moment, next, left, step, -⟩
  generalize shown : Event.ended number none final = event at step
  cases step with
  | @ended round rounds under reported idle complete =>
      injection shown with sameNumber succeeded _
      have innermost : round ∈ moment.rounds := by simp [under]
      rcases left.round_began round innermost with ⟨earlier, move, during, rfl, did, told⟩
      rcases left.split with ⟨start, atStart, -⟩
      -- nobody is called on account of a move before it begins
      have noneBefore : hearings round.number earlier = [] := by
        apply And.left
        apply atStart.progress.none_early
        exact Nat.le_of_eq (by rw [left.number_began, atStart.moves_new])
      have heardBy : callsOf number (earlier ++ .began round.number move :: during) =
          round.audience := by
        rw [callsOf, sameNumber]
        cases left.progress.rounds round innermost with
        | resting done idle intact audience heard answered =>
            rw [heard, audience, complete intact, List.append_nil, List.map_map]
            exact List.map_id _
        | calling done listener called =>
            rw [idle] at called
            cases called
        | brokenOff done failing message idle failed =>
            rw [failed] at succeeded
            cases succeeded
      refine ⟨earlier, move, during, by rw [sameNumber], ?_⟩
      rw [callsOf, hearings_append, sameNumber, noneBefore] at heardBy
      rw [← did, ← told, sameNumber]
      exact heardBy
  | began | subscribed | unsubscribed | logged | called | answered => cases shown

end

end Session

end Router
