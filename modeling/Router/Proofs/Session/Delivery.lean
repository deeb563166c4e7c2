import Router.Proofs.Session.FirstListener

namespace Router.Session

/-! ## What a move sets off

A move without effect is over at once, and nobody hears of it. Of any other move all
those hear who are subscribed right after it changed the navigator, each as often as it is
subscribed, until one of them fails. What they do to the subscriptions meanwhile counts
for later moves only. -/

/-- The whole audience was told the news, or the calls were broken off when one of them
failed. -/
def Delivered (audience : List Listener) (news : Option Action) (failure : Option String)
    (hearings : List (Listener × Option Action)) (answers : List (Listener × Option String)) :
    Prop :=
  match failure with
  | none => hearings = audience.map (·, news) ∧ answers = audience.map (·, none)
  | some message => ∃ told failing missed, audience = told ++ failing :: missed ∧
      hearings = (told ++ [failing]).map (·, news) ∧
      answers = told.map (·, none) ++ [(failing, some message)]

theorem Delivered.hearings_isPrefix {audience : List Listener} {news : Option Action}
    {failure : Option String} {hearings : List (Listener × Option Action)}
    {answers : List (Listener × Option String)}
    (delivered : Delivered audience news failure hearings answers) :
    hearings <+: audience.map (·, news) := by
  cases failure with
  | none =>
      rcases delivered with ⟨rfl, -⟩
      exact List.prefix_rfl
  | some message =>
      rcases delivered with ⟨told, failing, missed, rfl, rfl, -⟩
      refine ⟨missed.map (·, news), ?_⟩
      simp

/-- Whoever has been called so far, nobody was passed over. -/
theorem Round.Progress.hearings_isPrefix {round : Round}
    {hearings : List (Listener × Option Action)} {answers : List (Listener × Option String)}
    (progress : round.Progress hearings answers) :
    hearings <+: round.audience.map (·, round.news) := by
  cases progress with
  | resting told _ _ audience heard | calling told _ _ _ audience heard
  | brokenOff told _ _ _ _ audience heard =>
      rw [audience, heard]
      refine ⟨round.waiting.map (·, round.news), ?_⟩
      simp

theorem Round.Progress.delivered {round : Round} {hearings : List (Listener × Option Action)}
    {answers : List (Listener × Option String)} (progress : round.Progress hearings answers)
    (idle : round.calling = none) (complete : round.failure = none → round.waiting = []) :
    Delivered round.audience round.news round.failure hearings answers := by
  cases progress with
  | resting told _ intact audience heard answered =>
      rw [complete intact, List.append_nil] at audience
      rw [intact, audience]
      exact ⟨heard, answered⟩
  | calling _ _ called =>
      rw [idle] at called
      cases called
  | brokenOff told failing message _ failed audience heard answered =>
      rw [failed]
      exact ⟨told, failing, round.waiting, audience, heard, answered⟩

/-! ### One move among others -/

theorem Step.of_began {before after : Moment} {number : Nat} {move : Move}
    (step : Step before (.began number move) after) :
    number = before.moves.length ∧ after = before.moved move := by
  cases step
  exact ⟨rfl, rfl⟩

/-- A move that is under way and has begun before was under way before. -/
theorem Course.round {first last : Moment} {events : List Event}
    (course : Course first events last) {round : Round} (under : round ∈ last.rounds)
    (begun : round.number < first.moves.length) :
    ∃ former ∈ first.rounds, former.number = round.number ∧ former.step = round.step ∧
      former.audience = round.audience := by
  induction course with
  | nil => exact ⟨round, under, rfl, rfl, rfl⟩
  | @cons first middle last event events step _ induction =>
      have begunNext : round.number < middle.moves.length := by
        rw [step.moves, List.length_append]
        exact Nat.lt_add_right _ begun
      rcases induction under begunNext with ⟨former, member, number, did, audience⟩
      rw [← number] at begun
      rcases step.round member with ⟨earlier, there, sameNumber, didThen, audienceThen⟩ |
        ⟨move, rfl, -⟩
      · exact ⟨earlier, there, sameNumber.trans number, didThen.trans did,
          audienceThen.trans audience⟩
      · exact absurd step.of_began.1 (Nat.ne_of_lt begun)

/-- The move of the given number has begun and is not under way any more. -/
structure Moment.Past (moment : Moment) (number : Nat) : Prop where
  begun : number < moment.moves.length
  gone : ∀ round ∈ moment.rounds, round.number ≠ number

theorem Moment.Numbered.past {moment : Moment} (numbered : moment.Numbered) {round : Round}
    {rounds : List Round} (under : moment.rounds = round :: rounds) :
    ({ moment with rounds } : Moment).Past round.number := by
  have begun := numbered.begun
  have ordered := numbered.later
  rw [under, List.forall_mem_cons] at begun
  rw [under, List.pairwise_cons] at ordered
  exact ⟨begun.1, fun outer member => Nat.ne_of_lt (ordered.1 outer member)⟩

theorem Step.account {before after : Moment} {event : Event} {number : Nat}
    (step : Step before event after) (about : event.account? = some number) :
    ∃ round ∈ before.rounds, round.number = number := by
  cases step with
  | @called round rounds listener waiting heard under | @answered round rounds listener under =>
      exact ⟨round, by simp [under], Option.some_inj.mp about⟩
  | began | subscribed | unsubscribed | logged | ended => cases about

theorem Step.past {before after : Moment} {event : Event} {number : Nat}
    (step : Step before event after) (past : before.Past number) : after.Past number := by
  constructor
  · rw [step.moves, List.length_append]
    exact Nat.lt_add_right _ past.begun
  · intro round under
    rcases step.round under with ⟨former, member, same, -⟩ | ⟨move, rfl, -⟩
    · rw [← same]
      exact past.gone former member
    · rw [step.of_began.1]
      exact Nat.ne_of_gt past.begun

/-- Nobody is called any more on account of a move that is over. -/
theorem Course.account_of_past {first last : Moment} {events : List Event} {number : Nat}
    (course : Course first events last) (past : first.Past number) :
    ∀ event ∈ events, event.account? ≠ some number := by
  induction course with
  | nil => exact fun _ member => (nomatch member)
  | cons step _ induction =>
      intro event member
      rcases List.mem_cons.mp member with rfl | member
      · intro about
        rcases step.account about with ⟨round, under, same⟩
        exact past.gone round under same
      · exact induction (step.past past) event member

section

variable {initial : String} {config : Config} {before after : List Event} {number : Nat}
  {move : Move} {last : Moment}

/-- What a move under way brought about is what it does to the navigator as it was when
the move began, and its audience was subscribed then. -/
theorem Course.round_of_began {announcement : Option (Option Action)}
    (course : Course (.new initial config) (before ++ .began number move :: after) last)
    (announced : ((replayed initial config before).apply move).announcement = announcement)
    {round : Round} (under : round ∈ last.rounds) (same : round.number = number) :
    round.step.announcement = announcement ∧
      round.audience = if announcement.isSome then subscribersAfter before else [] := by
  rcases course.step_at with ⟨start, begun, atStart, beginning, inside⟩
  rcases beginning.of_began with ⟨startNumber, rfl⟩
  have old : round.number < (start.moved move).moves.length := by
    rw [same, startNumber, Moment.moved, List.length_append]
    exact Nat.lt_succ_self _
  rcases inside.round under old with ⟨former, member, sameNumber, sameStep, sameAudience⟩
  rcases List.mem_cons.mp member with rfl | outer
  · have announces : round.step.announcement = announcement := by
      rw [← sameStep, ← announced]
      exact congrArg (·.apply move |>.announcement) atStart.navigator_new
    refine ⟨announces, ?_⟩
    rw [← sameAudience, ← announces, ← sameStep, Moment.audience, atStart.subscribers]
    rfl
  · have smaller := (atStart.numbered (numbered_new initial config)).begun former outer
    rw [sameNumber, same, startNumber] at smaller
    exact absurd smaller (Nat.lt_irrefl _)

/-- When a move is over, its announcement has been delivered to whoever was subscribed
when it began. -/
theorem Course.delivered {failure : Option String} {final : Navigator}
    {announcement : Option (Option Action)}
    (course : Course (.new initial config) (before ++ .began number move :: after) last)
    (announced : ((replayed initial config before).apply move).announcement = announcement)
    (ended : .ended number failure final ∈ after) :
    Delivered (if announcement.isSome then subscribersAfter before else [])
      (announcement.getD none) failure
      (hearings number (before ++ .began number move :: after))
      (answers number (before ++ .began number move :: after)) := by
  rcases List.append_of_mem ended with ⟨during, rest, rfl⟩
  have regrouped :
      before ++ .began number move :: (during ++ .ended number failure final :: rest) =
        (before ++ .began number move :: during) ++ .ended number failure final :: rest := by
    simp
  rw [regrouped] at course ⊢
  rcases course.step_at with ⟨moment, left, upToEnd, ending, afterwards⟩
  have numbered := upToEnd.numbered (numbered_new initial config)
  cases ending with
  | @ended round rounds under reported idle complete =>
      have innermost : round ∈ moment.rounds := by simp [under]
      have afterEnd : ∀ event ∈
          Event.ended round.number round.failure moment.navigator :: rest,
          event.account? ≠ some round.number :=
        List.forall_mem_cons.mpr ⟨(Option.some_ne_none _).symm,
          afterwards.account_of_past (numbered.past under)⟩
      rw [hearings_append_of_other afterEnd, answers_append_of_other afterEnd]
      rcases upToEnd.round_of_began announced innermost rfl with ⟨announces, audience⟩
      rw [← audience, ← announces]
      exact (upToEnd.progress.rounds round innermost).delivered idle complete

end

/-! ### Moves that nobody is told of -/

theorem Step.of_nobody {before after : Moment} {event : Event} {round : Round}
    {rounds : List Round} (step : Step before event after)
    (under : before.rounds = round :: rounds) (idle : round.calling = none)
    (nobody : round.waiting = []) :
    (∃ record records, round.unlogged = record :: records ∧
      event = .logged round.number record ∧
      after = { before with rounds := { round with unlogged := records } :: rounds }) ∨
    (round.unlogged = [] ∧ event = .ended round.number round.failure before.navigator) := by
  cases step with
  | began free | subscribed free | unsubscribed free =>
      exact absurd idle (free round (by simp [under]))
  | logged found next =>
      cases under.symm.trans found
      exact .inl ⟨_, _, next, rfl, rfl⟩
  | called found reported _ _ next =>
      cases under.symm.trans found
      rw [nobody] at next
      cases next
  | answered found calling =>
      cases under.symm.trans found
      rw [idle] at calling
      cases calling
  | ended found reported =>
      cases under.symm.trans found
      exact .inr ⟨reported, rfl⟩

/-- A move with nobody to tell is over as soon as it has reported what it did. -/
theorem Course.of_nobody {first last : Moment} {events : List Event} {round : Round}
    {rounds : List Round} (course : Course first events last) (free : last.Open)
    (under : first.rounds = round :: rounds) (idle : round.calling = none)
    (nobody : round.waiting = []) :
    ∃ rest, events = round.unlogged.map (.logged round.number) ++
      .ended round.number round.failure first.navigator :: rest := by
  induction course generalizing round with
  | nil => exact absurd idle (free round (by simp [under]))
  | @cons first middle last event events step _ induction =>
      rcases step.of_nobody under idle nobody with
        ⟨record, records, unlogged, rfl, rfl⟩ | ⟨reported, rfl⟩
      · rcases induction free rfl idle nobody with ⟨rest, rfl⟩
        rw [unlogged]
        exact ⟨rest, rfl⟩
      · rw [reported]
        exact ⟨events, rfl⟩

theorem Course.silent {initial : String} {config : Config} {before after : List Event}
    {number : Nat} {move : Move} {last : Moment}
    (course : Course (.new initial config) (before ++ .began number move :: after) last)
    (free : last.Open)
    (silent : ((replayed initial config before).apply move).announcement = none) :
    let step := (replayed initial config before).apply move
    ∃ rest, after =
      step.records.map (.logged number) ++ .ended number none step.navigator :: rest := by
  intro step
  rcases course.step_at with ⟨start, begun, atStart, beginning, afterwards⟩
  rcases beginning.of_began with ⟨rfl, rfl⟩
  have state : start.navigator.apply move = step := by
    rw [atStart.navigator_new]
  have nobody : start.audience (start.navigator.apply move) = [] := by
    simp [Moment.audience, state, step, silent]
  rw [← state]
  exact afterwards.of_nobody free rfl rfl nobody

/-! ### Moves come to an end -/

theorem Step.still {before after : Moment} {event : Event} {round : Round}
    (step : Step before event after) (under : round ∈ before.rounds) :
    (∃ later ∈ after.rounds, later.number = round.number) ∨
      ∃ failure final, event = .ended round.number failure final := by
  cases step with
  | began => exact .inl ⟨round, List.mem_cons_of_mem _ under, rfl⟩
  | subscribed | unsubscribed => exact .inl ⟨round, under, rfl⟩
  | logged innermost | called innermost | answered innermost =>
      rw [innermost] at under
      rcases List.mem_cons.mp under with rfl | outer
      · exact .inl ⟨_, List.mem_cons_self, rfl⟩
      · exact .inl ⟨round, List.mem_cons_of_mem _ outer, rfl⟩
  | ended innermost =>
      rw [innermost] at under
      rcases List.mem_cons.mp under with rfl | outer
      · exact .inr ⟨_, _, rfl⟩
      · exact .inl ⟨round, outer, rfl⟩

theorem Course.still {first last : Moment} {events : List Event} {round : Round}
    (course : Course first events last) (under : round ∈ first.rounds) :
    (∃ later ∈ last.rounds, later.number = round.number) ∨
      ∃ failure final, .ended round.number failure final ∈ events := by
  induction course generalizing round with
  | nil => exact .inl ⟨round, under, rfl⟩
  | cons step _ induction =>
      rcases step.still under with ⟨later, member, same⟩ | ⟨failure, final, rfl⟩
      · rw [← same]
        refine (induction member).imp_right fun ⟨failure, final, ends⟩ => ?_
        exact ⟨failure, final, List.mem_cons_of_mem _ ends⟩
      · exact .inr ⟨failure, final, List.mem_cons_self⟩

theorem Course.still_of_began {initial : String} {config : Config} {before after : List Event}
    {number : Nat} {move : Move} {last : Moment}
    (course : Course (.new initial config) (before ++ .began number move :: after) last) :
    (∃ round ∈ last.rounds, round.number = number) ∨
      ∃ failure final, .ended number failure final ∈ after := by
  rcases course.step_at with ⟨start, begun, -, beginning, afterwards⟩
  rcases beginning.of_began with ⟨rfl, rfl⟩
  exact afterwards.still List.mem_cons_self

/-- Over or not, a move has called a first part of its audience. -/
theorem Course.hearings_isPrefix {initial : String} {config : Config} {before after : List Event}
    {number : Nat} {move : Move} {last : Moment} {announcement : Option (Option Action)}
    (course : Course (.new initial config) (before ++ .began number move :: after) last)
    (announced : ((replayed initial config before).apply move).announcement = announcement) :
    hearings number (before ++ .began number move :: after) <+:
      (if announcement.isSome then subscribersAfter before else []).map
        (·, announcement.getD none) := by
  rcases course.still_of_began with ⟨round, under, same⟩ | ⟨failure, final, ended⟩
  · rcases course.round_of_began announced under same with ⟨announces, audience⟩
    have heard := (course.progress.rounds round under).hearings_isPrefix
    rwa [Round.news, announces, audience, same] at heard
  · exact (course.delivered announced ended).hearings_isPrefix

variable {Memory : Type}

/-- Where no run is exhausted, every turn of a client leaves the moves under way as they
were before it. -/
theorem course_of_finished (behaviour : Behaviour Memory) (depth : Nat)
    {clients : List (Reaction Memory)} {session : Session Memory} {moment : Moment}
    (shows : moment.Shows session) (free : moment.Open)
    (finished : ∀ run ∈ play behaviour depth clients session, run.outcome ≠ .exhausted) :
    ∃ last, Course moment (chronicle (play behaviour depth clients session)) last ∧
      last.rounds = moment.rounds := by
  induction clients generalizing session moment with
  | nil => exact ⟨moment, .nil moment, rfl⟩
  | cons client clients induction =>
      rcases course_turn behaviour depth client shows free with
        ⟨middle, course, middleShows, middleFree, back⟩
      rw [play, List.forall_mem_cons] at finished
      rcases induction middleShows middleFree finished.2 with ⟨last, rest, same⟩
      exact ⟨last, course.append rest, same.trans (back finished.1)⟩

theorem exists_ended {behaviour : Behaviour Memory} {depth : Nat}
    {clients : List (Reaction Memory)} {initial : String} {config : Config}
    {memory : Memory} {before after : List Event} {number : Nat} {move : Move}
    (finished : ∀ run ∈ play behaviour depth clients (new initial config memory),
      run.outcome ≠ .exhausted)
    (split : chronicle (play behaviour depth clients (new initial config memory)) =
      before ++ .began number move :: after) :
    ∃ failure final, .ended number failure final ∈ after := by
  rcases course_of_finished behaviour depth (shows_new initial config memory)
    (open_new initial config) finished with ⟨last, course, none⟩
  rw [split] at course
  rcases course.still_of_began with ⟨round, under, -⟩ | ended
  · rw [none] at under
    cases under
  · exact ended

/-! ### Whole sessions -/

/-- A move without effect changes nothing, calls nobody and is over at once. A move with
an effect calls the listeners subscribed at that moment, in order, each entry of the list
once and all with the same news, and by the time it is over it has called all of them or
those up to one that failed. It comes to an end, unless calls were nested more deeply than
the session had provided for. And a listener that is subscribed before all others, and only
once, and stays so, hears of all effective moves of the session from then on, of each once
and in the order in which they were made. -/
theorem delivery_exact (behaviour : Behaviour Memory) (depth : Nat)
    (clients : List (Reaction Memory)) (initial : String) (config : Config)
    (memory : Memory) :
    let runs := play behaviour depth clients (new initial config memory)
    let events := chronicle runs
    let start := Navigator.start initial config
    (∀ before number move after, events = before ++ .began number move :: after →
      let state := replayed initial config before
      let step := state.apply move
      (¬state.Effective move →
        step.navigator = state ∧ hearings number events = [] ∧
        ∃ rest, after = step.records.map (.logged number) ++
          .ended number none state :: rest) ∧
      (state.Effective move →
        hearings number events <+:
          (subscribersAfter before).map (·, step.navigator.lastAction) ∧
        ∀ failure final, .ended number failure final ∈ after →
          Delivered (subscribersAfter before) step.navigator.lastAction failure
            (hearings number events) (answers number events)) ∧
      ((∀ run ∈ runs, run.outcome ≠ .exhausted) →
        ∃ failure final, .ended number failure final ∈ after)) ∧
    (∀ before listener after, events = before ++ .subscribed listener :: after →
      (∀ other, .subscribed other ∉ before) →
      .subscribed listener ∉ after → (∀ event ∈ after, event.dropped? ≠ some listener) →
      start.newsAlong 0 (movesBegun events) =
        start.newsAlong 0 (movesBegun before) ++ heardBy listener events) := by
  intro runs events start
  rcases course_chronicle behaviour depth clients initial config memory
    with ⟨last, course, free⟩
  change Course _ events last at course
  constructor
  · intro before number move after split state step
    have within : state.WithinLimit := (Navigator.withinLimit_start initial config).applyAll _
    have effect := Navigator.effect_apply within move
    refine ⟨fun idle => ?_, fun effective => ?_, fun finished => ?_⟩
    · rcases effect.of_not_effective idle with ⟨same, silent⟩
      rw [split] at course ⊢
      rcases course.silent free silent with ⟨rest, shape⟩
      have ended : .ended number none step.navigator ∈ after := by
        rw [shape]
        exact List.mem_append_right _ List.mem_cons_self
      rw [← same]
      exact ⟨rfl, (course.delivered silent ended).1, rest, shape⟩
    · have announced := effect.announcement_of_effective effective
      rw [split] at course ⊢
      exact ⟨course.hearings_isPrefix announced,
        fun failure final ended => course.delivered announced ended⟩
    · exact exists_ended finished split
  · intro before listener after split nobody once stays
    rw [split] at course ⊢
    exact course.heardBy_of_first free nobody once stays

/-- One listener only listens. The next one, when it hears of a navigation, subscribes a
further listener and goes back. The last one fails on being told of that. -/
def bustle : List (Reaction Script.Memory) :=
  [.subscribe "diary" "first" 0 [] none,
    .subscribe "guard" "second" 1
      [.subscribe "late" "fourth" 0 [] none, .move (.back 1)] none,
    .subscribe "bell" "third" 1 [] (some "too loud"),
    .move (.navigate "a" false), .move (.back 0)].map (Script.react .finish)

/-- The failure on account of the way back breaks off the navigation as well, whose news
does not come to the last of its audience. -/
theorem delivery_exact_bustle :
    let events := chronicle (play Script.behaviour 3 bustle (new "/" {} {}))
    Delivered ["diary", "guard", "bell"] (some (.between "/" "/a" .push)) (some "too loud")
      (hearings 0 events) (answers 0 events) ∧
    hearings 2 events = [] ∧
    (∃ failure final, .ended 1 failure final ∈ events) ∧
    heardBy "diary" events =
      [(0, some (.between "/" "/a" .push)), (1, some (.between "/a" "/" .back))] := by
  intro events
  have delivery := delivery_exact Script.behaviour 3 bustle "/" {} {}
  have goes : events = events.take 3 ++ .began 0 (.navigate "a" false) :: events.drop 4 := by
    decide +kernel
  have returns : events = events.take 8 ++ .began 1 (.back 1) :: events.drop 9 := by
    decide +kernel
  have stays : events = events.take 18 ++ .began 2 (.back 0) :: events.drop 19 := by
    decide +kernel
  have joins : events = [] ++ .subscribed "diary" :: events.drop 1 := by
    decide +kernel
  have delivered := ((delivery.1 _ _ _ _ goes).2.1 (by decide +kernel)).2 (some "too loud")
    (replayed "/" {} (events.take 17)) (by decide +kernel)
  have silent := (delivery.1 _ _ _ _ stays).1 (by decide +kernel)
  rcases (delivery.1 _ _ _ _ returns).2.2 (by decide +kernel) with ⟨failure, final, ended⟩
  have heard := delivery.2 _ _ _ joins (by simp) (by decide +kernel) (by decide +kernel)
  have audience : subscribersAfter (events.take 3) =
      (["diary", "guard", "bell"] : List Listener) := by
    decide +kernel
  have news : ((replayed "/" {} (events.take 3)).apply
      (.navigate "a" false)).navigator.lastAction = some (.between "/" "/a" .push) := by
    decide +kernel
  rw [audience, news] at delivered
  refine ⟨delivered, silent.2.1, ⟨failure, final, List.mem_of_mem_drop ended⟩, ?_⟩
  rw [← List.nil_append (heardBy "diary" events)]
  exact heard.symm.trans (by decide +kernel)

end Router.Session
