import Mathlib.Data.List.DropRight
import Router.Proofs.Navigator.Effect

namespace Router

/-! ## A limit only forgets

A navigator with a limit goes wherever one without a limit goes, and remembers the newer
part of what the other remembers. They part ways only when both are told to go back further
than the one with the limit remembers. -/

namespace Trail

/-- The same place on the same way, with only the nearer ones of the paths behind. -/
structure Shortens (shorter longer : Trail) : Prop where
  behind : shorter.behind <+: longer.behind
  current : shorter.current = longer.current
  ahead : shorter.ahead = longer.ahead

namespace Shortens

variable {shorter longer : Trail}

theorem history (shortens : shorter.Shortens longer) : shorter.history <:+ longer.history := by
  rw [Trail.history, Trail.history, shortens.current]
  exact List.suffix_append_self_iff.mpr (List.reverse_suffix.mpr shortens.behind)

theorem push (shortens : shorter.Shortens longer) (path : String) :
    (shorter.push path).Shortens (longer.push path) :=
  ⟨List.cons_prefix_cons.mpr ⟨shortens.current, shortens.behind⟩, rfl, rfl⟩

theorem replace (shortens : shorter.Shortens longer) (path : String) :
    (shorter.replace path).Shortens (longer.replace path) :=
  ⟨shortens.behind, rfl, rfl⟩

theorem forget (shortens : shorter.Shortens longer) (count : Nat) :
    (shorter.forget count).Shortens longer :=
  ⟨(List.take_prefix _ _).trans shortens.behind, shortens.current, shortens.ahead⟩

theorem clear (shortens : shorter.Shortens longer) : shorter.clear.Shortens longer.clear :=
  ⟨List.prefix_rfl, shortens.current, rfl⟩

/-- The way back is the same as far as it is remembered. -/
theorem retreat {count : Nat} (shortens : shorter.Shortens longer)
    (remembered : count ≤ shorter.behind.length) :
    (shorter.retreat count).Shortens (longer.retreat count) := by
  induction count generalizing shorter longer with
  | zero => exact shortens
  | succ count induction =>
      obtain ⟨behind, current, ahead⟩ := shorter
      obtain ⟨longBehind, longCurrent, longAhead⟩ := longer
      obtain ⟨⟨older, rfl⟩, rfl, rfl⟩ := shortens
      cases behind with
      | nil => cases remembered
      | cons nearest behind =>
          exact induction ⟨List.prefix_append behind older, rfl, rfl⟩
            (Nat.le_of_succ_le_succ remembered)

theorem advance (count : Nat) (shortens : shorter.Shortens longer) :
    (shorter.advance count).Shortens (longer.advance count) := by
  induction count generalizing shorter longer with
  | zero => exact shortens
  | succ count induction =>
      obtain ⟨behind, current, ahead⟩ := shorter
      obtain ⟨longBehind, longCurrent, longAhead⟩ := longer
      obtain ⟨nearer, rfl, rfl⟩ := shortens
      cases ahead with
      | nil => exact ⟨nearer, rfl, rfl⟩
      | cons nearest ahead =>
          exact induction ⟨List.cons_prefix_cons.mpr ⟨rfl, nearer⟩, rfl, rfl⟩

end Shortens

end Trail

namespace Navigator

/-- The first navigator is where the second one is, and remembers less of how they got
there. -/
structure Shadows (limited unlimited : Navigator) : Prop where
  trail : limited.trail.Shortens unlimited.trail
  lastAction : limited.lastAction = unlimited.lastAction

namespace Shadows

variable {limited unlimited : Navigator}

theorem path (shadows : limited.Shadows unlimited) : limited.path = unlimited.path :=
  shadows.trail.current

theorem canGoBack (shadows : limited.Shadows unlimited) (possible : limited.canGoBack) :
    unlimited.canGoBack :=
  canGoBack_iff.mpr
    (Nat.lt_of_lt_of_le (canGoBack_iff.mp possible) shadows.trail.history.length_le)

theorem canGoForward (shadows : limited.Shadows unlimited) :
    limited.canGoForward = unlimited.canGoForward := by
  rw [Navigator.canGoForward, Navigator.canGoForward, shadows.trail.ahead]

theorem arrive (shadows : limited.Shadows unlimited) (kind : ActionKind)
    {shorter longer : Trail} (trail : shorter.Shortens longer)
    (records otherRecords : List Record) :
    (limited.arrive kind shorter records).navigator.Shadows
      (unlimited.arrive kind longer otherRecords).navigator := by
  refine ⟨trail, ?_⟩
  change some _ = some _
  rw [shadows.path, trail.current]

/-- The two navigators find each move possible or impossible together. -/
theorem step {move : Move} {step otherStep : Step} (shadows : limited.Shadows unlimited)
    (effect : Effect limited move step) (otherEffect : Effect unlimited move otherStep)
    (unbounded : unlimited.config.limit = none)
    (remembered : ∀ count : Int, move = .back count → count ≤ limited.history.length - 1) :
    step.navigator.Shadows otherStep.navigator := by
  have path := shadows.path
  cases effect with
  | ignored same =>
      rw [path] at same
      cases otherEffect with
      | ignored => exact shadows
      | replaced different | pushed different | overflowed different =>
          exact absurd same different
  | replaced different =>
      rw [path] at different
      cases otherEffect with
      | ignored same => exact absurd same different
      | replaced =>
          rw [path]
          exact shadows.arrive .push (shadows.trail.replace _) [] []
  | pushed different room =>
      rw [path] at different
      cases otherEffect with
      | ignored same => exact absurd same different
      | pushed =>
          rw [path]
          exact shadows.arrive .push (shadows.trail.push _) [] []
      | overflowed _ full =>
          rw [unbounded] at full
          cases full
  | overflowed different full =>
      rw [path] at different
      cases otherEffect with
      | ignored same => exact absurd same different
      | pushed =>
          rw [path]
          exact shadows.arrive .push ((shadows.trail.push _).forget 1) _ []
      | overflowed _ full =>
          rw [unbounded] at full
          cases full
  | @stayedBack count nowhere =>
      cases otherEffect with
      | stayedBack => exact shadows
      | retreated positive =>
          have few := remembered count rfl
          have possible : limited.canGoBack := canGoBack_iff.mpr (by omega)
          exact absurd ⟨positive, possible⟩ nowhere
  | @retreated count positive possible =>
      cases otherEffect with
      | stayedBack nowhere => exact absurd ⟨positive, shadows.canGoBack possible⟩ nowhere
      | retreated =>
          have few := remembered count rfl
          rw [history, Trail.length_history] at few
          exact shadows.arrive .back (shadows.trail.retreat (by omega)) [] []
  | stayedForward nowhere =>
      rw [shadows.canGoForward] at nowhere
      cases otherEffect with
      | stayedForward => exact shadows
      | advanced positive possible => exact absurd ⟨positive, possible⟩ nowhere
  | @advanced count positive possible =>
      rw [shadows.canGoForward] at possible
      cases otherEffect with
      | stayedForward nowhere => exact absurd ⟨positive, possible⟩ nowhere
      | advanced => exact shadows.arrive .forward (shadows.trail.advance count.toNat) [] []
  | cleared =>
      cases otherEffect with
      | cleared => exact ⟨shadows.trail.clear, rfl⟩

end Shadows

/-! ### Whole runs -/

theorem shadows_start (initial : String) (limited unlimited : Config) :
    (start initial limited).Shadows (start initial unlimited) :=
  ⟨⟨List.prefix_rfl, rfl, rfl⟩, rfl⟩

theorem applyAll_take_succ (navigator : Navigator) (moves : List Move) (steps : Nat) :
    navigator.applyAll (moves.take (steps + 1)) =
      (navigator.applyAll (moves.take steps)).applyAll moves[steps]?.toList := by
  rw [List.take_add_one, applyAll_append]

/-- No way back in the moves is longer than what a navigator with this configuration
remembers by then. -/
def Remembered (initial : String) (config : Config) (moves : List Move) : Prop :=
  ∀ (steps : Nat) (count : Int), moves[steps]? = some (.back count) →
    count ≤ ((start initial config).applyAll (moves.take steps)).history.length - 1

theorem Remembered.shadows {initial : String} {limited unlimited : Config}
    {moves : List Move} (remembered : Remembered initial limited moves)
    (unbounded : unlimited.limit = none) (steps : Nat) :
    ((start initial limited).applyAll (moves.take steps)).Shadows
      ((start initial unlimited).applyAll (moves.take steps)) := by
  induction steps with
  | zero => exact shadows_start initial limited unlimited
  | succ steps induction =>
      rw [applyAll_take_succ, applyAll_take_succ]
      cases there : moves[steps]? with
      | none => exact induction
      | some move =>
          have within := (withinLimit_start initial limited).applyAll (moves.take steps)
          have otherStart := withinLimit_start initial unlimited
          have otherWithin := otherStart.applyAll (moves.take steps)
          refine induction.step (effect_apply within move) (effect_apply otherWithin move) ?_ ?_
          · rw [config_applyAll otherStart]
            exact unbounded
          · rintro count rfl
            exact remembered steps count there

/-! ### Navigations alone -/

/-- How many of so many paths there is room for. -/
def kept (config : Config) (count : Nat) : Nat :=
  match config.limit with
  | none => count
  | some limit => min limit count

theorem kept_kept_add_one (config : Config) (count : Nat) :
    kept config (kept config count + 1) = kept config (count + 1) := by
  cases limited : config.limit with
  | none => simp [kept, limited]
  | some limit =>
      simp only [kept, limited]
      omega

theorem Effect.length_history {navigator : Navigator} {target : String} {replace : Bool}
    {step : Step} (effect : Effect navigator (.navigate target replace) step) :
    step.navigator.history.length =
      if Path.resolve navigator.path target = navigator.path ∨ replace then
        navigator.history.length
      else kept navigator.config (navigator.history.length + 1) := by
  cases effect with
  | ignored same => rw [if_pos (.inl same)]
  | replaced different =>
      rw [if_pos (.inr rfl), history, history, Trail.length_history, Trail.length_history]
      rfl
  | pushed different room =>
      have pushed : kept navigator.config (navigator.history.length + 1) =
          navigator.history.length + 1 := by
        unfold kept
        split
        · rfl
        · next limit limited => exact Nat.min_eq_right (room limit limited)
      rw [if_neg (by simp [different]), pushed]
      exact (congrArg List.length (Trail.history_push _ _)).trans List.length_append
  | overflowed different full =>
      have dropped : kept navigator.config (navigator.history.length + 1) =
          navigator.history.length := by
        simp [kept, full]
      have tail : navigator.trail.history.tail.length + 1 = navigator.history.length := by
        rw [List.length_tail]
        exact Nat.sub_add_cancel navigator.length_history_pos
      rw [if_neg (by simp [different]), dropped, ← tail]
      exact (congrArg List.length (Trail.history_forget_push _ _)).trans List.length_append

/-- After a navigation as before, the navigator with the limit remembers as many paths as
it has room for. -/
theorem Shadows.length_history {limited unlimited : Navigator} {target : String}
    {replace : Bool} {step otherStep : Step} (shadows : limited.Shadows unlimited)
    (effect : Effect limited (.navigate target replace) step)
    (otherEffect : Effect unlimited (.navigate target replace) otherStep)
    (unbounded : unlimited.config.limit = none)
    (length : limited.history.length = kept limited.config unlimited.history.length) :
    step.navigator.history.length =
      kept limited.config otherStep.navigator.history.length := by
  have all : kept unlimited.config (unlimited.history.length + 1) =
      unlimited.history.length + 1 := by
    simp [kept, unbounded]
  rw [effect.length_history, otherEffect.length_history, shadows.path, all, length]
  split
  · rfl
  · exact kept_kept_add_one limited.config unlimited.history.length

/-- Whether the moves are navigations, none of which goes back, forward or clears. -/
def Navigations (moves : List Move) : Prop :=
  ∀ move ∈ moves, ∃ target replace, move = .navigate target replace

theorem Navigations.remembered {moves : List Move} (navigations : Navigations moves)
    (initial : String) (config : Config) : Remembered initial config moves := by
  intro steps count there
  rcases navigations _ (List.mem_of_getElem? there) with ⟨target, replace, impossible⟩
  cases impossible

theorem Navigations.length_history {initial : String} {limited unlimited : Config}
    {moves : List Move} (navigations : Navigations moves)
    (unbounded : unlimited.limit = none) (steps : Nat) :
    ((start initial limited).applyAll (moves.take steps)).history.length =
      kept limited ((start initial unlimited).applyAll (moves.take steps)).history.length := by
  induction steps with
  | zero =>
      unfold kept
      split
      · rfl
      · next limit bounded => exact (Nat.min_eq_right (limited.limit_positive limit bounded)).symm
  | succ steps induction =>
      rw [applyAll_take_succ, applyAll_take_succ]
      cases there : moves[steps]? with
      | none => exact induction
      | some move =>
          rcases navigations move (List.mem_of_getElem? there) with ⟨target, replace, rfl⟩
          have shadows := (navigations.remembered initial limited).shadows unbounded steps
          have start := withinLimit_start initial limited
          have otherStart := withinLimit_start initial unlimited
          have config := config_applyAll start (moves.take steps)
          have kept := shadows.length_history
            (effect_apply (start.applyAll (moves.take steps)) (.navigate target replace))
            (effect_apply (otherStart.applyAll (moves.take steps)) (.navigate target replace))
            (by rw [config_applyAll otherStart]; exact unbounded)
            (by rw [config]; exact induction)
          rwa [config] at kept

/-- As long as no way back is longer than what the navigator with the limit remembers, it
is always where one without a limit is, with the same paths ahead and the same last
action, and remembers a latest part of the other's history. After navigations alone this
part is as long as the limit allows. -/
theorem limit_only_forgets {limited unlimited : Config} (unbounded : unlimited.limit = none)
    (initial : String) (moves : List Move) :
    let forgetful := fun steps => (start initial limited).applyAll (moves.take steps)
    let full := fun steps => (start initial unlimited).applyAll (moves.take steps)
    (Remembered initial limited moves → ∀ steps,
      (forgetful steps).path = (full steps).path ∧
      (forgetful steps).forwardHistory = (full steps).forwardHistory ∧
      (forgetful steps).lastAction = (full steps).lastAction ∧
      (forgetful steps).history <:+ (full steps).history) ∧
    (Navigations moves → ∀ limit ∈ limited.limit, ∀ steps,
      (forgetful steps).history =
        (full steps).history.rtake (min limit (full steps).history.length)) := by
  intro forgetful full
  constructor
  · intro remembered steps
    have shadows := remembered.shadows unbounded steps
    exact ⟨shadows.path, congrArg List.reverse shadows.trail.ahead, shadows.lastAction,
      shadows.trail.history⟩
  · intro navigations limit bounded steps
    have shadows := (navigations.remembered initial limited).shadows unbounded steps
    have length : (forgetful steps).history.length =
        kept limited (full steps).history.length :=
      navigations.length_history unbounded steps
    have room : kept limited (full steps).history.length =
        min limit (full steps).history.length := by
      rw [kept, bounded]
    rw [List.rtake, ← room, ← length]
    exact List.suffix_iff_eq_drop.mp shadows.trail.history

/-- Beyond the limit, back as far as possible, forward again and on. -/
def excursion : List Move :=
  [.navigate "a" false, .navigate "b" false, .navigate "../c" true, .back 1, .forward 7,
    .navigate "/d" false]

def roomForTwo : Config where
  limit := some 2
  limit_positive := by
    intro bound two
    cases two
    exact Nat.two_pos

/-- With room for two paths, two of four are left in the end, and the last two of three
before the way back. -/
theorem limit_only_forgets_excursion :
    Remembered "/" roomForTwo excursion ∧
    ((start "/" roomForTwo).applyAll (excursion.take 6)).history = ["/a/c", "/d"] ∧
    ((start "/" {}).applyAll (excursion.take 6)).history = ["/", "/a", "/a/c", "/d"] ∧
    ((start "/" roomForTwo).applyAll (excursion.take 6)).history <:+
      ((start "/" {}).applyAll (excursion.take 6)).history ∧
    Navigations (excursion.take 3) ∧
    ((start "/" roomForTwo).applyAll ((excursion.take 3).take 3)).history =
      ((start "/" {}).applyAll ((excursion.take 3).take 3)).history.rtake (min 2 3) := by
  have remembered : Remembered "/" roomForTwo excursion := by
    intro steps count there
    match steps with
    | 0 | 1 | 2 | 4 | 5 => cases there
    | 3 =>
        cases there
        decide +kernel
    | _ + 6 => cases there
  have navigations : Navigations (excursion.take 3) := by
    simp only [Navigations, excursion, List.take, List.forall_mem_cons]
    exact ⟨⟨_, _, rfl⟩, ⟨_, _, rfl⟩, ⟨_, _, rfl⟩, fun _ member => (nomatch member)⟩
  have forgets := (@limit_only_forgets roomForTwo {} rfl "/" excursion).1 remembered 6
  have latest :=
    (@limit_only_forgets roomForTwo {} rfl "/" (excursion.take 3)).2 navigations 2 rfl 3
  exact ⟨remembered, by decide +kernel, by decide +kernel, forgets.2.2.2, navigations, latest⟩

end Navigator

end Router
