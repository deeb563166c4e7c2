import Router.Navigator

namespace Router

/-! ## What a move does

A navigator with a limit never remembers more paths than the limit allows, where
those behind and those ahead count together. That is more than the limit asks for,
and it is what makes going forward harmless: no path has to be forgotten on the way.
Within the limit there are nine things a move can do. They are listed once here, and
whatever holds of all moves is proved by going through the list. -/

namespace Trail

theorem length_timeline (trail : Trail) :
    trail.timeline.length = trail.behind.length + 1 + trail.ahead.length := by
  simp [timeline, length_history]

theorem history_forget (trail : Trail) {count : Nat}
    (few : count ≤ trail.behind.length) :
    (trail.forget count).history = trail.history.drop count := by
  rw [history, history, forget, List.drop_append_of_le_length (by simpa using few),
    List.drop_reverse]

theorem history_ne_nil (trail : Trail) : trail.history ≠ [] := by
  simp [history]

theorem history_forget_push (trail : Trail) (path : String) :
    ((trail.push path).forget 1).history = trail.history.tail ++ [path] := by
  rw [history_forget _ (by simp [push]), history_push, List.drop_one,
    List.tail_append_of_ne_nil trail.history_ne_nil]

end Trail

namespace Navigator

/-- The paths behind, the current one and those ahead are together no more than the
limit allows. -/
def WithinLimit (navigator : Navigator) : Prop :=
  ∀ limit ∈ navigator.config.limit, navigator.trail.timeline.length ≤ limit

/-- What a move can do to a navigator within its limit. -/
inductive Effect (navigator : Navigator) : Move → Step → Prop
  | ignored {target : String} {replace : Bool}
      (same : Path.resolve navigator.path target = navigator.path) :
      Effect navigator (.navigate target replace)
        { navigator
          records := [.navigationIgnored navigator.path navigator.config.debug] }
  | replaced {target : String}
      (different : Path.resolve navigator.path target ≠ navigator.path) :
      Effect navigator (.navigate target true)
        (navigator.arrive .push
          (navigator.trail.replace (Path.resolve navigator.path target)) [])
  | pushed {target : String}
      (different : Path.resolve navigator.path target ≠ navigator.path)
      (room : ∀ limit ∈ navigator.config.limit, navigator.history.length < limit) :
      Effect navigator (.navigate target false)
        (navigator.arrive .push
          (navigator.trail.push (Path.resolve navigator.path target)) [])
  | overflowed {target : String}
      (different : Path.resolve navigator.path target ≠ navigator.path)
      (full : navigator.config.limit = some navigator.history.length) :
      Effect navigator (.navigate target false)
        (navigator.arrive .push
          ((navigator.trail.push (Path.resolve navigator.path target)).forget 1)
          [.historyTrimmed navigator.history.length 1])
  | stayedBack {count : Int} (nowhere : ¬(0 < count ∧ navigator.canGoBack)) :
      Effect navigator (.back count) { navigator }
  | retreated {count : Int} (positive : 0 < count) (possible : navigator.canGoBack) :
      Effect navigator (.back count)
        (navigator.arrive .back (navigator.trail.retreat count.toNat) [])
  | stayedForward {count : Int} (nowhere : ¬(0 < count ∧ navigator.canGoForward)) :
      Effect navigator (.forward count) { navigator }
  | advanced {count : Int} (positive : 0 < count) (possible : navigator.canGoForward) :
      Effect navigator (.forward count)
        (navigator.arrive .forward (navigator.trail.advance count.toNat) [])
  | cleared :
      Effect navigator .clear
        { navigator := { navigator with trail := navigator.trail.clear, lastAction := none }
          announcement := some none }

/-! Trimming is settled here: it drops one path after a push onto a full history and
does nothing otherwise. -/

theorem arriveTrimmed_of_le (navigator : Navigator) (kind : ActionKind) (trail : Trail)
    (within : ∀ limit ∈ navigator.config.limit, trail.behind.length + 1 ≤ limit) :
    navigator.arriveTrimmed kind trail = navigator.arrive kind trail [] := by
  unfold arriveTrimmed
  split
  · rfl
  · next limit limited =>
      have noExcess : trail.excess limit = 0 :=
        Nat.sub_eq_zero_of_le (within limit limited)
      simp [noExcess]

theorem arriveTrimmed_of_full (navigator : Navigator) (kind : ActionKind) (trail : Trail)
    (full : navigator.config.limit = some trail.behind.length) :
    navigator.arriveTrimmed kind trail =
      navigator.arrive kind (trail.forget 1) [.historyTrimmed trail.behind.length 1] := by
  have excess : trail.excess trail.behind.length = 1 := by
    rw [Trail.excess]
    omega
  simp [arriveTrimmed, full, excess]

theorem length_history_pos (navigator : Navigator) : 0 < navigator.history.length := by
  rw [history, Trail.length_history]
  exact Nat.succ_pos _

theorem canGoBack_iff {navigator : Navigator} :
    navigator.canGoBack ↔ 1 < navigator.history.length := by
  rw [history, Trail.length_history, Nat.lt_add_left_iff_pos, List.length_pos_iff]
  simp [canGoBack]

theorem canGoForward_iff {navigator : Navigator} :
    navigator.canGoForward ↔ navigator.forwardHistory ≠ [] := by
  simp [canGoForward, forwardHistory, Trail.forwardHistory]

theorem WithinLimit.length_history_le {navigator : Navigator}
    (within : navigator.WithinLimit) {limit : Nat}
    (limited : limit ∈ navigator.config.limit) : navigator.history.length ≤ limit := by
  have total := within limit limited
  rw [Trail.length_timeline] at total
  rw [history, Trail.length_history]
  omega

theorem apply_push {navigator : Navigator} (within : navigator.WithinLimit)
    {target : String} (different : Path.resolve navigator.path target ≠ navigator.path) :
    Effect navigator (.navigate target false)
      (navigator.apply (.navigate target false)) := by
  have pushes : navigator.apply (.navigate target false) =
      navigator.arriveTrimmed .push
        (navigator.trail.push (Path.resolve navigator.path target)) := by
    simp [apply, different]
  have length : (navigator.trail.push (Path.resolve navigator.path target)).behind.length =
      navigator.history.length := by
    rw [history, Trail.length_history, Trail.push, List.length_cons]
  rw [pushes]
  by_cases full : navigator.config.limit = some navigator.history.length
  · rw [arriveTrimmed_of_full _ _ _ (by rw [length]; exact full), length]
    exact .overflowed different full
  · have room : ∀ limit ∈ navigator.config.limit, navigator.history.length < limit := by
      intro limit limited
      refine Nat.lt_of_le_of_ne (within.length_history_le limited) fun equal => full ?_
      rw [equal]
      exact limited
    rw [arriveTrimmed_of_le _ _ _ fun limit limited => by
      rw [length]; exact room limit limited]
    exact .pushed different room

/-- Every move of a navigator within its limit does one of the things listed. -/
theorem effect_apply {navigator : Navigator} (within : navigator.WithinLimit)
    (move : Move) : Effect navigator move (navigator.apply move) := by
  cases move with
  | navigate target replace =>
      by_cases same : Path.resolve navigator.path target = navigator.path
      · have ignores : navigator.apply (.navigate target replace) =
            { navigator
              records := [.navigationIgnored navigator.path navigator.config.debug] } := by
          simp [apply, same]
        rw [ignores]
        exact .ignored same
      · cases replace with
        | false => exact apply_push within same
        | true =>
            have replaces : navigator.apply (.navigate target true) =
                navigator.arrive .push
                  (navigator.trail.replace (Path.resolve navigator.path target)) [] := by
              simp [apply, same]
            rw [replaces]
            exact .replaced same
  | back count =>
      rw [apply]
      split
      · next possible => exact .retreated possible.1 possible.2
      · next nowhere => exact .stayedBack nowhere
  | forward count =>
      rw [apply]
      split
      · next possible =>
          -- the timeline stays as it is, so that the joint bound leaves nothing to trim
          have kept : ∀ limit ∈ navigator.config.limit,
              (navigator.trail.advance count.toNat).behind.length + 1 ≤ limit := by
            intro limit limited
            have total := within limit limited
            rw [← Trail.timeline_advance count.toNat, Trail.length_timeline] at total
            omega
          rw [arriveTrimmed_of_le _ _ _ kept]
          exact .advanced possible.1 possible.2
      · next nowhere => exact .stayedForward nowhere
  | clear => exact .cleared

/-! ### Moving on -/

theorem Effect.config {navigator : Navigator} {move : Move} {step : Step}
    (effect : Effect navigator move step) :
    step.navigator.config = navigator.config := by
  cases effect <;> rfl

theorem Effect.withinLimit {navigator : Navigator} {move : Move} {step : Step}
    (effect : Effect navigator move step) (within : navigator.WithinLimit) :
    step.navigator.WithinLimit := by
  intro limit limited
  rw [effect.config] at limited
  have total := within limit limited
  cases effect with
  | ignored | stayedBack | stayedForward => exact total
  | replaced =>
      simp only [arrive, Trail.length_timeline, Trail.replace] at total ⊢
      simp only [List.length_nil]
      omega
  | pushed different room =>
      have shorter := room limit limited
      simp only [history, Trail.length_history] at shorter
      simp only [arrive, Trail.length_timeline, Trail.push, List.length_cons,
        List.length_nil]
      omega
  | overflowed different full =>
      rw [Option.mem_def, full, Option.some_inj] at limited
      simp only [history, Trail.length_history] at limited
      simp only [arrive, Trail.length_timeline, Trail.push, Trail.forget, List.length_take,
        List.length_cons, List.length_nil]
      omega
  | retreated =>
      simp only [arrive, Trail.timeline_retreat]
      exact total
  | advanced =>
      simp only [arrive, Trail.timeline_advance]
      exact total
  | cleared =>
      simp only [Trail.length_timeline, Trail.clear, List.length_nil] at total ⊢
      omega

theorem withinLimit_start (initial : String) (config : Config) :
    (start initial config).WithinLimit := by
  intro limit limited
  exact config.limit_positive limit limited

@[simp] theorem applyAll_cons (navigator : Navigator) (move : Move) (moves : List Move) :
    navigator.applyAll (move :: moves) = (navigator.apply move).navigator.applyAll moves :=
  rfl

@[simp] theorem applyAll_append (navigator : Navigator) (earlier later : List Move) :
    navigator.applyAll (earlier ++ later) = (navigator.applyAll earlier).applyAll later :=
  List.foldl_append

theorem WithinLimit.apply {navigator : Navigator} (within : navigator.WithinLimit)
    (move : Move) : (navigator.apply move).navigator.WithinLimit :=
  (effect_apply within move).withinLimit within

/-- Every navigator that can be reached is within its limit. -/
theorem WithinLimit.applyAll {navigator : Navigator} (within : navigator.WithinLimit)
    (moves : List Move) : (navigator.applyAll moves).WithinLimit := by
  induction moves generalizing navigator with
  | nil => exact within
  | cons move moves induction =>
      exact induction (within.apply move)

theorem config_applyAll {navigator : Navigator} (within : navigator.WithinLimit)
    (moves : List Move) : (navigator.applyAll moves).config = navigator.config := by
  induction moves generalizing navigator with
  | nil => rfl
  | cons move moves induction =>
      have effect := effect_apply within move
      exact (induction (effect.withinLimit within)).trans effect.config

end Navigator

end Router
