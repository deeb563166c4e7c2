import Mathlib.Logic.IsEmpty.Defs
import Router.Proofs.Scope.Lexical

namespace Router.Scope

/-! ## Isolated routers

A navigator is moved only by what runs while its own router is the innermost one. What is
around a statement is said here without the variables that hold it: the statements that a
run comes to are listed, and each is handed the navigator and the base that the scopes
around it bind. Whatever these scopes were left by, every navigator ends up as if it had
been alone with the orders given inside its router. -/

/-- A statement that a run comes to, with what the scopes around it bind and the world
that it finds. -/
structure Visit where
  surroundings : Surroundings
  statement : Statement
  world : World

namespace World

/-- The world that the body of a router finds. -/
def insideRouter (world : World) (navigator base : String) : World :=
  let (_, world) := world.setNavigator navigator
  let (_, world) := world.setBase (Path.normalize [base])
  (Run.report (.enteredRouter navigator) world).state

/-- The world that the body of a route finds. -/
def insideRoute (world : World) (info : RouteInfo) : World :=
  let (_, world) := world.setBase info.matchedPath
  (Run.report (.enteredRoute info.matchedPath info) world).state

end World

mutual

/-- The visits inside of a statement, in the order in which they are made. -/
def Statement.visitsInside : Statement → Surroundings → World → List Visit
  | .router navigator base body, _, world =>
      visitsAll body { navigator := some navigator, base := Path.normalize [base] }
        (world.insideRouter navigator base)
  | .route glob body, outer, world =>
      match world.matchPath glob with
      | .ok (some info) =>
          visitsAll body { outer with base := info.matchedPath } (world.insideRoute info)
      | .ok none | .error _ => []
  | .enter info body, outer, world =>
      visitsAll body { outer with base := info.matchedPath } (world.insideRoute info)
  | .rescue body catches handler, outer, world =>
      let run := runAll body world
      visitsAll body outer world ++
        -- the scopes that the failure came out of are no longer around the handler
        (run.failure.filter catches).elim [] fun failure =>
          visitsAll handler outer (Run.report (.caught failure) run.state).state
  | .act _, _, _ => []

/-- The visits of a program. What comes after a failure is not visited. -/
def visitsAll : List Statement → Surroundings → World → List Visit
  | [], _, _ => []
  | statement :: rest, outer, world =>
      let run := statement.run world
      ⟨outer, statement, world⟩ :: statement.visitsInside outer world ++
        if run.failure = none then visitsAll rest outer run.state else []

end

/-- Whether the act needs the navigator of the router around it. -/
def Act.asksNavigator : Act → Bool
  | .getNavigator | .redirect _ _ | .move _ | .isActive _ _ | .route _ => true
  | .getBase | .raise _ => false

def Statement.asksNavigator : Statement → Bool
  | .act only => only.asksNavigator
  | .route _ _ => true
  | .router _ _ _ | .enter _ _ | .rescue _ _ _ => false

def Statement.act? : Statement → Option Act
  | .act only => some only
  | .router _ _ _ | .route _ _ | .enter _ _ | .rescue _ _ _ => none

namespace Visit

/-- The act that the visit carries out, unless it fails. -/
def act? (visit : Visit) : Option Act := do
  let act ← visit.statement.act?
  (visit.world.perform act).toOption.map fun _ => act

/-- What the visit orders, and to whom: the navigator of the innermost router around, if
there is one of this name. -/
def order? (visit : Visit) : Option (String × Move) := do
  let name ← visit.surroundings.navigator
  let _ ← visit.world.navigators.find? name
  let act ← visit.statement.act?
  let move ← act.order? visit.surroundings.base
  return (name, move)

end Visit

def Occurrence.act? : Occurrence → Option Act
  | .acted act _ => some act
  | .enteredRouter _ | .leftRouter | .enteredRoute _ _ | .leftRoute | .skippedRoute
  | .attempted | .caught _ => none

/-- The acts that were carried out, in order. -/
def acts (reports : List Report) : List Act :=
  reports.filterMap fun report => report.occurrence.act?

/-! ### Outside of every router -/

namespace World

theorem current_outside {world : World} (outside : world.surroundings.navigator = none) :
    world.current = .error .noNavigator := by
  simp [current, navigator?, outside]

theorem perform_outside {world : World} (outside : world.surroundings.navigator = none)
    {act : Act} (asks : act.asksNavigator) : world.perform act = .error .noNavigator := by
  cases act with
  | getBase | raise => cases asks
  | getNavigator | redirect | move | isActive | route =>
      simp only [perform, redirect, move, matchPath, current_outside outside]
      rfl

end World

theorem Statement.run_outside {world : World} (outside : world.surroundings.navigator = none)
    {statement : Statement} (asks : statement.asksNavigator) :
    statement.run world = { failure := some .noNavigator, state := world } := by
  cases statement with
  | router | enter | rescue => cases asks
  | route glob body =>
      have fails : world.matchPath glob = .error .noNavigator := by
        simp only [World.matchPath, World.current_outside outside]
        rfl
      rw [Statement.run, fails]
  | act act => rw [Statement.run, World.perform_outside outside asks]

/-! ### Visits explain runs -/

theorem Statement.surroundings_run (statement : Statement) (world : World) :
    (statement.run world).state.surroundings = world.surroundings := by
  have agrees := statement.agrees world.surroundings world.store
  exact congrArg (fun run => run.state.surroundings) agrees

theorem surroundings_runAll (program : List Statement) (world : World) :
    (runAll program world).state.surroundings = world.surroundings := by
  have agrees := agrees_evaluateAll program world.surroundings world.store
  exact congrArg (fun run => run.state.surroundings) agrees

/-- What was visited accounts for the acts and the orders that a run reports, and each visit
was made in the surroundings that were handed down to it. -/
structure Explains (visits : List Visit) (run : Run World) : Prop where
  acted : acts run.reports = visits.filterMap Visit.act?
  ordered : orders run.reports = visits.filterMap Visit.order?
  inside : ∀ visit ∈ visits, visit.world.surroundings = visit.surroundings

namespace Explains

variable {earlier later visits : List Visit} {run : Run World} {next : World → Run World}

theorem followedBy (first : Explains earlier run) (second : Explains later (next run.state)) :
    Explains (earlier ++ later) (run.followedBy next) where
  acted := by
    rw [List.filterMap_append, ← first.acted, ← second.acted]
    exact List.filterMap_append
  ordered := by
    rw [List.filterMap_append, ← first.ordered, ← second.ordered]
    exact orders_append _ _
  inside := by
    intro visit member
    exact (List.mem_append.mp member).elim (first.inside visit) (second.inside visit)

theorem andThen (first : Explains earlier run) (second : Explains later (next run.state)) :
    Explains (earlier ++ if run.failure = none then later else []) (run.andThen next) := by
  unfold Run.andThen
  cases run.failure with
  | none => exact first.followedBy second
  | some failure => simpa using first

/-- Only reports of acts need a visit. -/
theorem report {occurrence : Occurrence} (idle : occurrence.act? = none) (world : World) :
    Explains [] (Run.report occurrence world) where
  acted := List.filterMap_cons_none idle
  ordered := by
    cases occurrence with
    | acted act answer => cases idle
    | enteredRouter | leftRouter | enteredRoute | leftRoute | skippedRoute | attempted
    | caught => rfl
  inside := by simp

theorem rescued {catches : Failure → Bool} {handled : Failure → List Visit}
    (first : Explains earlier run)
    (second : ∀ failure,
      Explains (handled failure) (next (Run.report (.caught failure) run.state).state)) :
    Explains (earlier ++ (run.failure.filter catches).elim [] handled)
      (run.rescued catches Run.report next) := by
  unfold Run.rescued
  cases broken : run.failure with
  | none => exact first.followedBy (report rfl run.state)
  | some failure =>
      by_cases caught : catches failure
      · have recovered : Explains earlier { run with failure := none } :=
          ⟨first.acted, first.ordered, first.inside⟩
        have told : Explains earlier
            ({ run with failure := none }.followedBy (Run.report (.caught failure))) := by
          rw [← List.append_nil earlier]
          exact recovered.followedBy (report rfl run.state)
        simp only [Option.filter, caught, if_true]
        exact told.followedBy (second failure)
      · simpa [Option.filter, caught] using first

/-- Entering a scope and leaving it again visits only what is inside. -/
theorem within {entered : Occurrence} {inner : World} {leave : World → Run World}
    (enters : entered.act? = none) (leaves : ∀ outside, Explains [] (leave outside))
    (body : Explains visits (next (Run.report entered inner).state)) :
    Explains visits
      ((Run.report entered inner).followedBy fun inside =>
        (next inside).followedBy leave) := by
  have left := body.followedBy (leaves _)
  rw [List.append_nil] at left
  rw [← List.nil_append visits]
  exact (report enters inner).followedBy left

theorem withinRouter {world : World} {navigator base : String}
    (body : Explains visits (next (world.insideRouter navigator base))) :
    Explains visits (world.withinRouter navigator base next) :=
  within rfl (fun _ => report rfl _) body

theorem withinRoute {world : World} {info : RouteInfo}
    (body : Explains visits (next (world.insideRoute info))) :
    Explains visits (world.withinRoute info next) :=
  within rfl (fun _ => report rfl _) body

/-- A statement that is no act is explained by what is visited inside of it. -/
theorem entering (explains : Explains visits run) {statement : Statement}
    (noAct : statement.act? = none) {outer : Surroundings} {world : World}
    (inside : world.surroundings = outer) :
    Explains (⟨outer, statement, world⟩ :: visits) run := by
  have silent : Visit.act? ⟨outer, statement, world⟩ = none := by
    simp [Visit.act?, noAct]
  have idle : Visit.order? ⟨outer, statement, world⟩ = none := by
    simp [Visit.order?, noAct]
  constructor
  · rw [List.filterMap_cons_none silent]
    exact explains.acted
  · rw [List.filterMap_cons_none idle]
    exact explains.ordered
  · exact List.forall_mem_cons.mpr ⟨inside, explains.inside⟩

end Explains

namespace World

/-- An act that orders something of a navigator that there is does not fail. -/
theorem perform_of_ordered {world : World} {act : Act} {name : String} {navigator : Navigator}
    {move : Move} (around : world.navigator? = some (name, navigator))
    (order : act.order? world.surroundings.base = some move) :
    world.perform act = .ok (.done, world.moved name navigator move) := by
  have current : world.current = .ok (name, navigator) := current_eq_ok_iff.mpr around
  cases act with
  | getBase | getNavigator | isActive | route | raise => cases order
  | redirect | move =>
      cases order
      simp only [perform, redirect, World.move, current]
      rfl

theorem order?_visit_of_ordered {world : World} {act : Act} {name : String}
    {navigator : Navigator} {move : Move}
    (around : world.navigator? = some (name, navigator))
    (order : act.order? world.surroundings.base = some move) :
    Visit.order? ⟨world.surroundings, .act act, world⟩ = some (name, move) := by
  have known := navigator?_eq_some_iff.mp around
  simp [Visit.order?, Statement.act?, known.1, known.2, order]

/-- The report after an act tells of the order that its visit tells of. -/
theorem Deed.orders_report {world after : World} {act : Act} (deed : Deed world act after)
    (answer : Answer) :
    orders (Run.report (.acted act answer) after).reports =
      [⟨world.surroundings, .act act, world⟩].filterMap Visit.order? := by
  cases deed with
  | looked idle =>
      simp [orders, Run.report, Report.order?, Occurrence.order?, Visit.order?, Statement.act?,
        idle]
  | ordered order around =>
      rw [List.filterMap_cons_some (order?_visit_of_ordered around order)]
      simp [orders, Run.report, Report.order?, Occurrence.order?, order,
        navigator?_moved around]

/-- An act that fails has ordered nothing. -/
theorem order?_visit_of_error {world : World} {act : Act} {failure : Failure}
    (fails : world.perform act = .error failure) :
    Visit.order? ⟨world.surroundings, .act act, world⟩ = none := by
  cases order : act.order? world.surroundings.base with
  | none => simp [Visit.order?, Statement.act?, order]
  | some move =>
      cases around : world.surroundings.navigator with
      | none => simp [Visit.order?, around]
      | some name =>
          cases known : world.navigators.find? name with
          | none => simp [Visit.order?, around, known]
          | some navigator =>
              have performs := perform_of_ordered
                (navigator?_eq_some_iff.mpr ⟨around, known⟩) order
              rw [performs] at fails
              cases fails

end World

theorem Explains.act (act : Act) (world : World) :
    Explains [⟨world.surroundings, .act act, world⟩] ((Statement.act act).run world) := by
  rw [Statement.run]
  cases performs : world.perform act with
  | error failure =>
      refine ⟨?_, ?_, by simp⟩
      · simp [acts, Visit.act?, Statement.act?, performs, Except.toOption]
      · simp [orders, World.order?_visit_of_error performs]
  | ok performed =>
      refine ⟨?_, (World.deed_of_perform performs).orders_report performed.1, by simp⟩
      simp [acts, Run.report, Occurrence.act?, Visit.act?, Statement.act?, performs,
        Except.toOption]

mutual

theorem Statement.explains (statement : Statement) (outer : Surroundings) (world : World)
    (inside : world.surroundings = outer) :
    Explains (⟨outer, statement, world⟩ :: statement.visitsInside outer world)
      (statement.run world) := by
  cases statement with
  | router navigator base body =>
      have explains := explains_runAll body _ (world.insideRouter navigator base) rfl
      exact explains.withinRouter.entering rfl inside
  | enter info body =>
      subst inside
      have explains := explains_runAll body _ (world.insideRoute info) rfl
      exact explains.withinRoute.entering rfl rfl
  | route glob body =>
      subst inside
      refine Explains.entering ?_ rfl rfl
      rw [Statement.run, Statement.visitsInside]
      cases world.matchPath glob with
      | error failure => exact ⟨rfl, rfl, by simp⟩
      | ok matched =>
          cases matched with
          | none => exact Explains.report rfl world
          | some info =>
              have explains := explains_runAll body _ (world.insideRoute info) rfl
              exact explains.withinRoute
  | rescue body catches handler =>
      have explains := explains_runAll body outer world inside
      have kept : (runAll body world).state.surroundings = outer :=
        (surroundings_runAll body world).trans inside
      have handled := fun failure => explains_runAll handler outer
        (Run.report (.caught failure) (runAll body world).state).state kept
      exact (explains.rescued handled).entering rfl inside
  | act act =>
      subst inside
      exact Explains.act act world

theorem explains_runAll (program : List Statement) (outer : Surroundings) (world : World)
    (inside : world.surroundings = outer) :
    Explains (visitsAll program outer world) (runAll program world) := by
  cases program with
  | nil => exact ⟨rfl, rfl, by simp [visitsAll]⟩
  | cons statement rest =>
      have here := statement.explains outer world inside
      have kept : (statement.run world).state.surroundings = outer :=
        (statement.surroundings_run world).trans inside
      exact here.andThen (explains_runAll rest outer _ kept)

end

/-- Routers are isolated. Whatever program is run, in whatever world, its visits tell the
acts that it carries out. A navigator that had not moved yet ends up as if it had been
started anew and had then carried out, in order, what was ordered of it where its router
was the innermost one, with links read from the base there. Each visit finds the variables
to hold what the scopes around it bind. Outside of every router there is no navigator to
be had, and whatever asks for one fails and changes nothing. -/
theorem runAll_isolated (program : List Statement) (world : World) :
    let run := runAll program world
    let visits := visitsAll program world.surroundings world
    acts run.reports = visits.filterMap Visit.act? ∧
    (∀ name initial config,
      world.navigators.find? name = some (.start initial config) →
      run.state.navigators.find? name =
        some ((Navigator.start initial config).applyAll
          (ordersTo name (visits.filterMap Visit.order?)))) ∧
    ∀ visit ∈ visits,
      visit.world.surroundings = visit.surroundings ∧
      (visit.surroundings.navigator = none → visit.statement.asksNavigator →
        visit.statement.run visit.world =
          { failure := some .noNavigator, state := visit.world }) := by
  intro run visits
  have explains : Explains visits run := explains_runAll program _ world rfl
  refine ⟨explains.acted, ?_, ?_⟩
  · intro name initial config fresh
    rw [find?_runAll, fresh, explains.ordered]
    rfl
  · intro visit member
    have inside := explains.inside visit member
    refine ⟨inside, fun outside asks => ?_⟩
    rw [← inside] at outside
    exact Statement.run_outside outside asks

/-- The main router is entered again from inside another one. One failure leaves both of
the inner routers and a second one the outer router. Before the first scope and after the
last one there is nothing to move. -/
theorem runAll_isolated_interwoven :
    let world : World :=
      { navigators := .ofList [("main", .start "/news" {}), ("side", .start "docs" {})] }
    let program : List Statement :=
      [.attempt [.act (.redirect "lost" true)],
       .attempt
        [.router "main" "/"
          [.act (.move (.navigate "latest" false)),
           .attempt
            [.router "side" "/docs"
              [.act (.redirect "intro" false),
               .router "main" "/news" [.act (.redirect "../old" true), .act (.raise "lost")],
               .act (.redirect "never" false)]],
           .act (.redirect "home" false),
           .act (.raise "lost")]],
       .router "side" "/" [.route "docs/*" [.act (.redirect "next" false)]],
       .act (.move .clear)]
    let run := runAll program world
    run.failure = some .noNavigator ∧
    run.state.navigators.find? "main" =
      some ((Navigator.start "/news" {}).applyAll
        [.navigate "latest" false, .navigate "/old" true, .navigate "/home" false]) ∧
    run.state.navigators.find? "side" =
      some ((Navigator.start "docs" {}).applyAll
        [.navigate "/docs/intro" false, .navigate "/docs/next" false]) ∧
    (run.state.navigators.find? "main").map Navigator.history =
      some ["/news", "/old", "/home"] ∧
    (run.state.navigators.find? "side").map Navigator.history =
      some ["/docs", "/docs/intro", "/docs/next"] := by
  intro world program run
  have isolated := (runAll_isolated program world).2.1
  have main := isolated "main" "/news" {} (by decide +kernel)
  have side := isolated "side" "docs" {} (by decide +kernel)
  have ordersToMain :
      ordersTo "main" ((visitsAll program world.surroundings world).filterMap Visit.order?) =
        [.navigate "latest" false, .navigate "/old" true, .navigate "/home" false] := by
    decide +kernel
  have ordersToSide :
      ordersTo "side" ((visitsAll program world.surroundings world).filterMap Visit.order?) =
        [.navigate "/docs/intro" false, .navigate "/docs/next" false] := by
    decide +kernel
  rw [ordersToMain] at main
  rw [ordersToSide] at side
  have historyOfMain : (run.state.navigators.find? "main").map Navigator.history =
      some ["/news", "/old", "/home"] := by
    rw [main]
    decide +kernel
  have historyOfSide : (run.state.navigators.find? "side").map Navigator.history =
      some ["/docs", "/docs/intro", "/docs/next"] := by
    rw [side]
    decide +kernel
  exact ⟨by decide +kernel, main, side, historyOfMain, historyOfSide⟩

end Router.Scope
