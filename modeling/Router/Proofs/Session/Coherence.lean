import Router.Proofs.Navigator.Effect
import Router.Proofs.Session.Replay

namespace Router

/-! ## The last action and the histories

The last action is not only a report: it tells where the path it came from is to be found
now. After going back that path lies ahead, after going forward it lies behind, and a push
leaves nothing ahead. No move breaks this, and so it holds whenever a listener looks. -/

namespace Trail

variable {trail : Trail} {count : Nat}

theorem ahead_subset_retreat (count : Nat) (trail : Trail) :
    trail.ahead ⊆ (trail.retreat count).ahead := by
  induction count generalizing trail with
  | zero => exact List.Subset.refl _
  | succ count induction =>
      obtain ⟨behind, current, ahead⟩ := trail
      cases behind with
      | nil => exact List.Subset.refl _
      | cons nearest behind =>
          have further := induction ⟨behind, nearest, current :: ahead⟩
          exact fun path member => further (List.mem_cons_of_mem current member)

theorem behind_subset_advance (count : Nat) (trail : Trail) :
    trail.behind ⊆ (trail.advance count).behind := by
  induction count generalizing trail with
  | zero => exact List.Subset.refl _
  | succ count induction =>
      obtain ⟨behind, current, ahead⟩ := trail
      cases ahead with
      | nil => exact List.Subset.refl _
      | cons nearest ahead =>
          have further := induction ⟨current :: behind, nearest, ahead⟩
          exact fun path member => further (List.mem_cons_of_mem current member)

/-- The path left by going back lies ahead. -/
theorem current_mem_ahead_retreat (positive : 0 < count) (somewhere : trail.behind ≠ []) :
    trail.current ∈ (trail.retreat count).ahead := by
  obtain ⟨behind, current, ahead⟩ := trail
  rcases Nat.exists_eq_add_one_of_ne_zero (Nat.ne_of_gt positive) with ⟨rest, rfl⟩
  rcases List.exists_cons_of_ne_nil somewhere with ⟨nearest, behind, rfl⟩
  exact ahead_subset_retreat rest ⟨behind, nearest, current :: ahead⟩ List.mem_cons_self

/-- The path left by going forward lies behind. -/
theorem current_mem_behind_advance (positive : 0 < count) (somewhere : trail.ahead ≠ []) :
    trail.current ∈ (trail.advance count).behind := by
  obtain ⟨behind, current, ahead⟩ := trail
  rcases Nat.exists_eq_add_one_of_ne_zero (Nat.ne_of_gt positive) with ⟨rest, rfl⟩
  rcases List.exists_cons_of_ne_nil somewhere with ⟨nearest, ahead, rfl⟩
  exact behind_subset_advance rest ⟨current :: behind, nearest, ahead⟩ List.mem_cons_self

end Trail

namespace Navigator

/-- Where the path that an action came from is to be found. -/
def Traces (navigator : Navigator) (action : Action) : Prop :=
  match action.kind with
  | .push => navigator.forwardHistory = [] ∧ action.previous ≠ action.current
  | .back => navigator.forwardHistory ≠ [] ∧ action.previous ∈ navigator.forwardHistory
  | .forward => 2 ≤ navigator.history.length ∧ action.previous ∈ navigator.history.dropLast

structure Coherent (navigator : Navigator) : Prop where
  unmoved : navigator.lastAction = none →
    navigator.history = [navigator.path] ∧ navigator.forwardHistory = []
  moved : ∀ action ∈ navigator.lastAction,
    action.current = navigator.path ∧
    action.direction = Direction.between action.previous action.current ∧
    navigator.Traces action

theorem coherent_start (initial : String) (config : Config) :
    (start initial config).Coherent :=
  ⟨fun _ => ⟨rfl, rfl⟩, fun _ last => (nomatch last)⟩

/-- After an arrival only the traces of its action are in question. -/
theorem coherent_arrive {navigator : Navigator} {kind : ActionKind} {trail : Trail}
    {records : List Record}
    (traces : (navigator.arrive kind trail records).navigator.Traces
      (.between navigator.path trail.current kind)) :
    (navigator.arrive kind trail records).navigator.Coherent := by
  constructor
  · intro none
    cases none
  · intro action last
    cases last
    exact ⟨rfl, rfl, traces⟩

theorem traces_back {navigator : Navigator} {count : Int} (positive : 0 < count)
    (possible : navigator.canGoBack) :
    (navigator.arrive .back (navigator.trail.retreat count.toNat) []).navigator.Traces
      (.between navigator.path (navigator.trail.retreat count.toNat).current .back) := by
  have somewhere : navigator.trail.behind ≠ [] := by
    simpa [canGoBack] using possible
  have ahead := List.mem_reverse.mpr
    (Trail.current_mem_ahead_retreat (show 0 < count.toNat by omega) somewhere)
  exact ⟨List.ne_nil_of_mem ahead, ahead⟩

theorem traces_forward {navigator : Navigator} {count : Int} (positive : 0 < count)
    (possible : navigator.canGoForward) :
    (navigator.arrive .forward (navigator.trail.advance count.toNat) []).navigator.Traces
      (.between navigator.path (navigator.trail.advance count.toNat).current .forward) := by
  have somewhere : navigator.trail.ahead ≠ [] := by
    simpa [canGoForward] using possible
  have behind :=
    Trail.current_mem_behind_advance (show 0 < count.toNat by omega) somewhere
  constructor
  · have length := List.length_pos_of_mem behind
    change 2 ≤ (navigator.trail.advance count.toNat).history.length
    rw [Trail.length_history]
    omega
  · change navigator.path ∈ (navigator.trail.advance count.toNat).history.dropLast
    rw [Trail.dropLast_history]
    exact List.mem_reverse.mpr behind

theorem Effect.coherent {navigator : Navigator} {move : Move} {step : Step}
    (effect : Effect navigator move step) (coherent : navigator.Coherent) :
    step.navigator.Coherent := by
  cases effect with
  | ignored | stayedBack | stayedForward => exact coherent
  | replaced different | pushed different | overflowed different =>
      exact coherent_arrive ⟨rfl, different.symm⟩
  | retreated positive possible => exact coherent_arrive (traces_back positive possible)
  | advanced positive possible => exact coherent_arrive (traces_forward positive possible)
  | cleared => exact ⟨fun _ => ⟨rfl, rfl⟩, fun _ last => (nomatch last)⟩

theorem Coherent.applyAll {navigator : Navigator} (coherent : navigator.Coherent)
    (within : navigator.WithinLimit) (moves : List Move) :
    (navigator.applyAll moves).Coherent := by
  induction moves generalizing navigator with
  | nil => exact coherent
  | cons move moves induction =>
      have effect := effect_apply within move
      exact induction (effect.coherent coherent) (effect.withinLimit within)

end Navigator

namespace Session

variable {Memory : Type}

/-- As long as there is no last action, the current path is all that the navigator holds.
Otherwise the last action led to the current path, in the direction in which this lies
from where it came from. After a push nothing is ahead, and the push led elsewhere; after
going back the path it came from lies ahead, and after going forward it lies behind. This
holds for moves that nobody listens to, whenever a listener is called, whenever a move is
over, with a failure or without, and after each turn of a client. -/
theorem lastAction_coherent (behaviour : Behaviour Memory) (depth : Nat)
    (clients : List (Reaction Memory)) (initial : String) (config : Config)
    (memory : Memory) :
    let runs := play behaviour depth clients (new initial config memory)
    (∀ moves, ((Navigator.start initial config).applyAll moves).Coherent) ∧
    (∀ event ∈ chronicle runs, ∀ seen ∈ event.navigator?, seen.Coherent) ∧
    ∀ run ∈ runs, run.session.navigator.Coherent := by
  intro runs
  have coherent := fun moves => (Navigator.coherent_start initial config).applyAll
    (Navigator.withinLimit_start initial config) moves
  exact ⟨coherent, holds_throughout Navigator.Coherent coherent⟩

/-- A listener went back in the midst of a navigation, and another one failed on being told
of that. The path they came from lies ahead all the same. -/
theorem lastAction_coherent_interrupted :
    ∃ seen, .ended 0 (some "too loud") seen ∈
        chronicle (play Script.behaviour 3 interruption (new "/" {} {})) ∧
      seen.lastAction = some (.between "/a" "/" .back) ∧
      seen.Traces (.between "/a" "/" .back) := by
  let events := chronicle (play Script.behaviour 3 interruption (new "/" {} {}))
  let seen := replayed "/" {} events.dropLast
  have member : .ended 0 (some "too loud") seen ∈ events := by decide +kernel
  have last : seen.lastAction = some (.between "/a" "/" .back) := by decide +kernel
  have coherent := lastAction_coherent Script.behaviour 3 interruption "/" {} {}
  have ending := coherent.2.1 _ member seen rfl
  exact ⟨seen, member, last, (ending.moved _ last).2.2⟩

end Session

end Router
