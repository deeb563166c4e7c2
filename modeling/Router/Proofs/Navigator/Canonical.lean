import Router.Proofs.Glob.Walk
import Router.Proofs.Matcher.Slot
import Router.Proofs.Navigator.Effect
import Router.Proofs.Scope.Orders
import Router.Proofs.Session.Replay

namespace Router

/-! ## Canonical histories

A navigator holds canonical paths and no others, whoever moves it: a client, a program
that redirects from any base, or listeners in the middle of a session. So its paths can
be compared as texts, and each path that it holds leads back to itself. -/

namespace Trail

variable {trail : Trail} {path target : String}

theorem mem_timeline_iff :
    path ∈ trail.timeline ↔
      path ∈ trail.behind ∨ path = trail.current ∨ path ∈ trail.ahead := by
  simp [timeline, history]

theorem current_mem_timeline (trail : Trail) : trail.current ∈ trail.timeline :=
  mem_timeline_iff.mpr (.inr (.inl rfl))

theorem mem_timeline_of_push (member : path ∈ (trail.push target).timeline) :
    path ∈ trail.timeline ∨ path = target := by
  rcases mem_timeline_iff.mp member with behind | arrived | ahead
  · rcases List.mem_cons.mp behind with left | behind
    · exact .inl (left ▸ trail.current_mem_timeline)
    · exact .inl (mem_timeline_iff.mpr (.inl behind))
  · exact .inr arrived
  · cases ahead

theorem mem_timeline_of_replace (member : path ∈ (trail.replace target).timeline) :
    path ∈ trail.timeline ∨ path = target := by
  rcases mem_timeline_iff.mp member with behind | arrived | ahead
  · exact .inl (mem_timeline_iff.mpr (.inl behind))
  · exact .inr arrived
  · cases ahead

theorem mem_timeline_of_forget {count : Nat} (member : path ∈ (trail.forget count).timeline) :
    path ∈ trail.timeline :=
  mem_timeline_iff.mpr ((mem_timeline_iff.mp member).imp_left List.mem_of_mem_take)

end Trail

namespace Navigator

/-- What a navigator that was started at some path can become. -/
inductive Reached (initial : String) (config : Config) : Navigator → Prop
  /-- By moves alone. -/
  | moved (moves : List Move) : Reached initial config ((start initial config).applyAll moves)
  /-- By a program, run in whatever surroundings, with redirections among its acts. -/
  | routed {world : Scope.World} {name : String} {navigator : Navigator}
      (started : world.navigators.find? name = some (start initial config))
      (program : List Scope.Statement)
      (found : (Scope.runAll program world).state.navigators.find? name = some navigator) :
      Reached initial config navigator
  /-- In a session, as it is seen at one of the events. -/
  | seen {Memory : Type} {behaviour : Behaviour Memory} {depth : Nat}
      {clients : List (Reaction Memory)} {memory : Memory} {before after : List Event}
      {event : Event} {navigator : Navigator}
      (events : Session.chronicle
        (Session.play behaviour depth clients (Session.new initial config memory)) =
          before ++ event :: after)
      (shown : navigator ∈ event.navigator?) : Reached initial config navigator

/-- Moves alone lead everywhere. -/
theorem Reached.exists_moves {initial : String} {config : Config} {navigator : Navigator}
    (reached : Reached initial config navigator) :
    ∃ moves, navigator = (start initial config).applyAll moves := by
  cases reached with
  | moved moves => exact ⟨moves, rfl⟩
  | routed started program found =>
      rw [Scope.find?_runAll, started, Option.map_some, Option.some_inj] at found
      exact ⟨_, found.symm⟩
  | @seen Memory behaviour depth clients memory before after event navigator events shown =>
      rcases Session.course_chronicle behaviour depth clients initial config memory
        with ⟨last, course, -⟩
      rw [events] at course
      exact ⟨_, course.navigator_at shown⟩

/-! ### What a navigator holds -/

/-- The current path, as all that is behind and ahead of it. -/
structure Canonical (navigator : Navigator) : Prop where
  initialPath : Path.Canonical navigator.initialPath
  timeline : ∀ path ∈ navigator.trail.timeline, Path.Canonical path
  lastAction : ∀ action ∈ navigator.lastAction,
    Path.Canonical action.previous ∧ Path.Canonical action.current

theorem Canonical.path {navigator : Navigator} (canonical : navigator.Canonical) :
    Path.Canonical navigator.path :=
  canonical.timeline _ navigator.trail.current_mem_timeline

theorem Canonical.held {navigator : Navigator} (canonical : navigator.Canonical) {path : String}
    (member : path ∈ navigator.history ++ navigator.forwardHistory) : Path.Canonical path := by
  apply canonical.timeline
  rw [Trail.timeline, List.mem_append]
  exact (List.mem_append.mp member).imp_right List.mem_reverse.mp

theorem canonical_start (initial : String) (config : Config) :
    (start initial config).Canonical where
  initialPath := Path.canonical_normalize [initial]
  timeline := by
    intro path member
    rw [List.mem_singleton.mp member]
    exact Path.canonical_normalize [initial]
  lastAction := fun _ none => nomatch none

/-- Nothing comes in but what a target resolves to. -/
theorem Effect.mem_timeline {navigator : Navigator} {move : Move} {step : Step}
    (effect : Effect navigator move step) {path : String}
    (member : path ∈ step.navigator.trail.timeline) :
    path ∈ navigator.trail.timeline ∨ ∃ target, path = Path.resolve navigator.path target := by
  cases effect with
  | ignored | stayedBack | stayedForward => exact .inl member
  | @replaced target =>
      exact (Trail.mem_timeline_of_replace member).imp_right fun arrived => ⟨target, arrived⟩
  | @pushed target =>
      exact (Trail.mem_timeline_of_push member).imp_right fun arrived => ⟨target, arrived⟩
  | @overflowed target =>
      have pushed := Trail.mem_timeline_of_push (Trail.mem_timeline_of_forget member)
      exact pushed.imp_right fun arrived => ⟨target, arrived⟩
  | retreated =>
      rw [← Trail.timeline_retreat]
      exact .inl member
  | advanced =>
      rw [← Trail.timeline_advance]
      exact .inl member
  | cleared =>
      rw [List.mem_singleton.mp member]
      exact .inl navigator.trail.current_mem_timeline

/-- What is remembered of a move is where it led from and to. -/
theorem Effect.mem_lastAction {navigator : Navigator} {move : Move} {step : Step}
    (effect : Effect navigator move step) {action : Action}
    (member : action ∈ step.navigator.lastAction) :
    action ∈ navigator.lastAction ∨
      action.previous = navigator.path ∧ action.current = step.navigator.path := by
  cases effect with
  | ignored | stayedBack | stayedForward => exact .inl member
  | replaced | pushed | overflowed | retreated | advanced =>
      cases member
      exact .inr ⟨rfl, rfl⟩
  | cleared => cases member

theorem Effect.initialPath {navigator : Navigator} {move : Move} {step : Step}
    (effect : Effect navigator move step) :
    step.navigator.initialPath = navigator.initialPath := by
  cases effect <;> rfl

theorem Effect.canonical {navigator : Navigator} {move : Move} {step : Step}
    (effect : Effect navigator move step) (canonical : navigator.Canonical) :
    step.navigator.Canonical := by
  have held : ∀ path ∈ step.navigator.trail.timeline, Path.Canonical path := by
    intro path member
    rcases effect.mem_timeline member with former | ⟨target, rfl⟩
    · exact canonical.timeline path former
    · exact Path.canonical_resolve navigator.path target
  refine ⟨effect.initialPath ▸ canonical.initialPath, held, ?_⟩
  intro action member
  rcases effect.mem_lastAction member with former | ⟨previous, current⟩
  · exact canonical.lastAction action former
  · rw [previous, current]
    exact ⟨canonical.path, held _ step.navigator.trail.current_mem_timeline⟩

theorem Canonical.applyAll {navigator : Navigator} (canonical : navigator.Canonical)
    (within : navigator.WithinLimit) (moves : List Move) :
    (navigator.applyAll moves).Canonical := by
  induction moves generalizing navigator with
  | nil => exact canonical
  | cons move moves induction =>
      have effect := effect_apply within move
      exact induction (effect.canonical canonical) (effect.withinLimit within)

theorem Reached.withinLimit {initial : String} {config : Config} {navigator : Navigator}
    (reached : Reached initial config navigator) : navigator.WithinLimit := by
  rcases reached.exists_moves with ⟨moves, rfl⟩
  exact (withinLimit_start initial config).applyAll moves

theorem Reached.canonical {initial : String} {config : Config} {navigator : Navigator}
    (reached : Reached initial config navigator) : navigator.Canonical := by
  rcases reached.exists_moves with ⟨moves, rfl⟩
  exact (canonical_start initial config).applyAll (withinLimit_start initial config) moves

/-! ### Going to a path that is held -/

/-- A navigation ends where its target resolves to, whatever is forgotten for it. -/
theorem Effect.path_navigate {navigator : Navigator} {target : String} {replace : Bool}
    {step : Step} (effect : Effect navigator (.navigate target replace) step) :
    step.navigator.path = Path.resolve navigator.path target := by
  cases effect with
  | ignored same => exact same.symm
  | replaced | pushed | overflowed => rfl

theorem Effect.navigate_of_same {navigator : Navigator} {target : String} {replace : Bool}
    {step : Step} (effect : Effect navigator (.navigate target replace) step)
    (same : Path.resolve navigator.path target = navigator.path) :
    step =
      { navigator
        records := [.navigationIgnored navigator.path navigator.config.debug] } := by
  cases effect with
  | ignored => rfl
  | replaced different | pushed different | overflowed different => exact absurd same different

end Navigator

/-- What a glob consumes of a canonical path is canonical, and the path goes on from
there. -/
theorem Glob.canonical_matchedPath {glob : Glob} {path : String} {info : RouteInfo}
    (canonical : Path.Canonical path) (matched : glob.matchPath? path = some info) :
    Path.Canonical info.matchedPath ∧
      Path.segments info.matchedPath <+: Path.segments path := by
  rcases Option.map_eq_some_iff.mp matched with ⟨capture, found, rfl⟩
  rw [canonical.parts_eq_segments] at found
  have legal : ∀ segment ∈ capture.consumed, Path.IsSegment segment :=
    isSegment_of_mem_consumed found fun _ => Path.isSegment_of_mem_segments
  refine ⟨⟨capture.consumed, legal, rfl⟩, ?_⟩
  rw [Capture.info, Path.segments_ofSegments legal, consumed_of_matchParts? found]
  exact List.take_prefix _ _

theorem Matcher.Sound.canonical_matchedPath {matcher : Matcher} (sound : matcher.Sound)
    {glob path relative : String} {info : RouteInfo} (canonical : Path.Canonical path)
    (matched : (matcher.matchPath glob path relative).result = .ok (some info)) :
    Path.Canonical info.matchedPath ∧
      Path.segments info.matchedPath <+: Path.segments path :=
  Glob.canonical_matchedPath canonical
    (Option.map_eq_some_iff.mpr (sound.matchPath_eq_some_iff.mp matched).2)

/-- In whatever way a navigator is moved, all paths that it holds are canonical: the one
it was started at, those in its history and ahead of it, and both of the last action.
What a glob consumes of the current path is canonical and a front part of it. A
navigation leads to what its target resolves to; so one to a path that is held leads to
just this path, and is ignored at the path itself. -/
theorem Navigator.reached_canonical {initial : String} {config : Config}
    {navigator : Navigator} (reached : Reached initial config navigator) :
    Path.Canonical navigator.initialPath ∧
    (∀ path ∈ navigator.history, Path.Canonical path) ∧
    (∀ path ∈ navigator.forwardHistory, Path.Canonical path) ∧
    (∀ action ∈ navigator.lastAction,
      Path.Canonical action.previous ∧ Path.Canonical action.current) ∧
    (∀ matcher : Matcher, matcher.Sound → ∀ glob relative info,
      (matcher.matchPath glob navigator.path relative).result = .ok (some info) →
        Path.Canonical info.matchedPath ∧
          Path.segments info.matchedPath <+: Path.segments navigator.path) ∧
    (∀ target replace, (navigator.apply (.navigate target replace)).navigator.path =
      Path.resolve navigator.path target) ∧
    ∀ path ∈ navigator.history ++ navigator.forwardHistory, ∀ replace,
      let step := navigator.apply (.navigate path replace)
      step.navigator.path = path ∧
        (path = navigator.path →
          step =
            { navigator
              records := [.navigationIgnored path navigator.config.debug] }) := by
  have canonical := reached.canonical
  have effect := effect_apply reached.withinLimit
  refine ⟨canonical.initialPath, ?_, ?_, canonical.lastAction, ?_, ?_, ?_⟩
  · exact fun path member => canonical.held (List.mem_append_left _ member)
  · exact fun path member => canonical.held (List.mem_append_right _ member)
  · intro matcher sound glob relative info matched
    exact sound.canonical_matchedPath canonical.path matched
  · exact fun target replace => (effect (.navigate target replace)).path_navigate
  · intro path member replace step
    have leads : Path.resolve navigator.path path = path :=
      (canonical.held member).resolve_eq navigator.path
    refine ⟨(effect (.navigate path replace)).path_navigate.trans leads, fun same => ?_⟩
    have ignored := (effect (.navigate path replace)).navigate_of_same (leads.trans same)
    rw [← same] at ignored
    exact ignored

/-- A redirection from a base that is not canonical, and a way back. -/
def Navigator.detour : List Scope.Statement :=
  [.router "main" "/shop"
    [.enter { matchedPath := "//raw/.." } [.act (.redirect "b/." false)],
      .act (.move (.back 1))]]

theorem Navigator.reached_canonical_redirected :
    ∃ navigator,
      (Scope.run (.ofList [("main", .start "home//." {})]) detour).state.navigators.find?
        "main" = some navigator ∧
      navigator.history = ["/home"] ∧ navigator.forwardHistory = ["/b"] ∧
      ∀ path ∈ navigator.forwardHistory, Path.Canonical path := by
  have found :
      (Scope.run (.ofList [("main", .start "home//." {})]) detour).state.navigators.find?
        "main" =
      some ⟨{}, "/home", ⟨[], "/home", ["/b"]⟩,
        some ⟨.back, "/b", "/home", .sideways⟩⟩ := by decide +kernel
  have reached : Reached "home//." {} _ :=
    .routed (Bindings.find?_insert_self _ "main" _) _ found
  exact ⟨_, found, rfl, rfl, (reached_canonical reached).2.2.1⟩

end Router
