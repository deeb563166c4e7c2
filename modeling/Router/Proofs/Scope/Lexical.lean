import Router.Proofs.Scope.Orders

namespace Router.Scope

/-! ## Lexical scopes

The surroundings of a statement can be read off the program: they are what the scopes
around it bind, whatever was run before and however it ended. To say so, programs are
evaluated a second time, with surroundings that are handed down and never written to.
Nothing that can be observed tells the two apart. -/

/-- What a program can change for good: everything but its surroundings. -/
structure Store where
  navigators : Bindings String Navigator
  pending : List Record

def World.store (world : World) : Store where
  navigators := world.navigators
  pending := world.pending

/-- The world that a program finds in these surroundings. -/
def Store.inside (store : Store) (surroundings : Surroundings) : World where
  navigators := store.navigators
  surroundings
  pending := store.pending

def Run.map {State Other : Type} (view : State → Other) (run : Run State) : Run Other where
  failure := run.failure
  state := view run.state
  reports := run.reports

namespace Store

def report (store : Store) (surroundings : Surroundings) (occurrence : Occurrence) :
    Run Store :=
  (Run.report occurrence (store.inside surroundings)).map World.store

/-- Evaluates a body in the inner surroundings. Nothing has to be put back afterwards,
because the outer surroundings are still at hand. -/
def within (store : Store) (outer inner : Surroundings) (entered left : Occurrence)
    (body : Surroundings → Store → Run Store) : Run Store :=
  (store.report inner entered).followedBy fun store =>
    (body inner store).followedBy fun store => store.report outer left

/-- A route binds the base and leaves the navigator as it is bound outside. -/
def withinRoute (store : Store) (outer : Surroundings) (info : RouteInfo)
    (body : Surroundings → Store → Run Store) : Run Store :=
  store.within outer { outer with base := info.matchedPath }
    (.enteredRoute info.matchedPath info) .leftRoute body

end Store

mutual

def Statement.evaluate : Statement → Surroundings → Store → Run Store
  | .router navigator base body, outer, store =>
      store.within outer { navigator := some navigator, base := Path.normalize [base] }
        (.enteredRouter navigator) .leftRouter (evaluateAll body)
  | .route glob body, outer, store =>
      match (store.inside outer).matchPath glob with
      | .error failure => { failure := some failure, state := store }
      | .ok none => store.report outer .skippedRoute
      | .ok (some info) => store.withinRoute outer info (evaluateAll body)
  | .enter info body, outer, store => store.withinRoute outer info (evaluateAll body)
  | .rescue body catches handler, outer, store =>
      (evaluateAll body outer store).rescued catches
        (fun occurrence store => store.report outer occurrence) (evaluateAll handler outer)
  | .act act, outer, store =>
      match (store.inside outer).perform act with
      | .error failure => { failure := some failure, state := store }
      | .ok (answer, world) => world.store.report outer (.acted act answer)

def evaluateAll : List Statement → Surroundings → Store → Run Store
  | [], _, store => { state := store }
  | statement :: rest, outer, store =>
      (statement.evaluate outer store).andThen (evaluateAll rest outer)

end

/-! ### Running agrees with evaluating -/

namespace Run

variable {State Other : Type} {view : State → Other} {next : Other → Run Other}
  {viewed : State → Run State}

/-- Only the state at the very end is seen, so that it may be viewed in another way than
the one in between. -/
theorem map_followedBy {later : State → Other} (run : Run State)
    (agree : ∀ state, next (view state) = (viewed state).map later) :
    (run.map view).followedBy next = (run.followedBy viewed).map later := by
  simp only [followedBy, map, agree]

theorem map_andThen (run : Run State)
    (agree : ∀ state, next (view state) = (viewed state).map view) :
    (run.map view).andThen next = (run.andThen viewed).map view := by
  rcases run with ⟨failure, state, reports⟩
  cases failure with
  | none => exact map_followedBy ⟨none, state, reports⟩ agree
  | some failure => rfl

theorem map_rescued (run : Run State) (catches : Failure → Bool)
    {report : Occurrence → Other → Run Other} {reportViewed : Occurrence → State → Run State}
    (agreeReport : ∀ occurrence state,
      report occurrence (view state) = (reportViewed occurrence state).map view)
    (agree : ∀ state, next (view state) = (viewed state).map view) :
    (run.map view).rescued catches report next =
      (run.rescued catches reportViewed viewed).map view := by
  rcases run with ⟨failure, state, reports⟩
  cases failure with
  | none => exact map_followedBy ⟨none, state, reports⟩ (agreeReport _)
  | some failure =>
      have recovered := map_followedBy ⟨none, state, reports⟩ (agreeReport (.caught failure))
      rw [map] at recovered
      simp only [rescued, map]
      split
      · rw [recovered]
        exact map_andThen _ agree
      · rfl

end Run

theorem report_inside (store : Store) (surroundings : Surroundings)
    (occurrence : Occurrence) :
    Run.report occurrence (store.inside surroundings) =
      (store.report surroundings occurrence).map (·.inside surroundings) := rfl

/-- Run in a world with certain surroundings, a program does what it evaluates to in these
surroundings, and leaves them as they were. -/
def Agrees (run : World → Run World) (evaluate : Surroundings → Store → Run Store) : Prop :=
  ∀ surroundings store,
    run (store.inside surroundings) =
      (evaluate surroundings store).map (·.inside surroundings)

namespace Agrees

variable {body : World → Run World} {evaluated : Surroundings → Store → Run Store}

/-- A scope that resets what it has set agrees with one that binds it. -/
theorem within (agrees : Agrees body evaluated) {outer inner : Surroundings}
    {reset : World → World}
    (restores : ∀ store : Store, reset (store.inside inner) = store.inside outer)
    (store : Store) (entered left : Occurrence) :
    ((Run.report entered (store.inside inner)).followedBy fun inside =>
      (body inside).followedBy fun outside => Run.report left (reset outside)) =
      (store.within outer inner entered left evaluated).map (·.inside outer) := by
  rw [report_inside]
  apply Run.map_followedBy
  intro store
  rw [agrees inner store]
  apply Run.map_followedBy
  intro store
  rw [restores, report_inside]

theorem withinRouter (agrees : Agrees body evaluated) (navigator base : String)
    (outer : Surroundings) (store : Store) :
    (store.inside outer).withinRouter navigator base body =
      (store.within outer { navigator := some navigator, base := Path.normalize [base] }
        (.enteredRouter navigator) .leftRouter evaluated).map (·.inside outer) :=
  agrees.within (fun _ => rfl) store _ _

/-- Resetting the base is enough, because the body has left the navigator as it found
it. -/
theorem withinRoute (agrees : Agrees body evaluated) (info : RouteInfo)
    (outer : Surroundings) (store : Store) :
    (store.inside outer).withinRoute info body =
      (store.withinRoute outer info evaluated).map (·.inside outer) :=
  agrees.within (fun _ => rfl) store _ _

end Agrees

mutual

theorem Statement.agrees (statement : Statement) : Agrees statement.run statement.evaluate := by
  intro outer store
  cases statement with
  | router navigator base body =>
      exact (agrees_evaluateAll body).withinRouter navigator base outer store
  | enter info body => exact (agrees_evaluateAll body).withinRoute info outer store
  | route glob body =>
      rw [Statement.run, Statement.evaluate]
      cases (store.inside outer).matchPath glob with
      | error failure => rfl
      | ok matched =>
          cases matched with
          | none => rfl
          | some info => exact (agrees_evaluateAll body).withinRoute info outer store
  | rescue body catches handler =>
      rw [Statement.run, Statement.evaluate, agrees_evaluateAll body outer store]
      exact Run.map_rescued _ catches (fun occurrence store => report_inside store outer occurrence)
        (agrees_evaluateAll handler outer)
  | act act =>
      rw [Statement.run, Statement.evaluate]
      cases performs : (store.inside outer).perform act with
      | error failure => rfl
      | ok performed =>
          have kept : performed.2.surroundings = outer :=
            (World.deed_of_perform performs).surroundings
          have same : performed.2.store.inside outer = performed.2 := by
            rw [← kept]
            rfl
          have reported := report_inside performed.2.store outer (.acted act performed.1)
          rwa [same] at reported

theorem agrees_evaluateAll (program : List Statement) :
    Agrees (runAll program) (evaluateAll program) := by
  intro outer store
  cases program with
  | nil => rfl
  | cons statement rest =>
      rw [runAll, evaluateAll, statement.agrees outer store]
      exact Run.map_andThen _ (agrees_evaluateAll rest outer)

end

/-- Whatever program is run, in whatever world: it reports what it reports when its
surroundings are handed down by the scopes around each statement, ends in the same
failure, if any, and leaves the same behind. The navigators are where the orders that it
reports lead them. Program and scope alike, however they end, leave the surroundings as
they found them. -/
theorem runAll_lexical (program : List Statement) (world : World) :
    let run := runAll program world
    let evaluation := evaluateAll program world.surroundings world.store
    run.reports = evaluation.reports ∧
    run.failure = evaluation.failure ∧
    run.state.store = evaluation.state ∧
    run.state.navigators = obeyAll world.navigators (orders evaluation.reports) ∧
    run.state.surroundings = world.surroundings ∧
    ∀ scope : Statement, (scope.run world).state.surroundings = world.surroundings := by
  intro run evaluation
  have agrees : run = evaluation.map (·.inside world.surroundings) :=
    agrees_evaluateAll program world.surroundings world.store
  have accounts : run.state.navigators = obeyAll world.navigators (orders run.reports) :=
    accounts_runAll program world
  have kept : ∀ scope : Statement,
      (scope.run world).state.surroundings = world.surroundings := by
    intro scope
    have agrees := scope.agrees world.surroundings world.store
    exact congrArg (fun run => run.state.surroundings) agrees
  rw [agrees] at accounts ⊢
  exact ⟨rfl, rfl, rfl, accounts, rfl, kept⟩

end Router.Scope
