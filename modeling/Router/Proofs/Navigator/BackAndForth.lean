import Router.Proofs.Navigator.Canonical
import Router.Proofs.Navigator.Forgetting

namespace Router

/-! ## Back and forth

Going back and going forward move along the same paths, and either way it stops where the
paths end. So one undoes the other unless it has been stopped, and has something to go
too far on the way home. Only positions have to be compared for that, since two trails
along the same paths are told apart by nothing else. -/

namespace Trail

variable {left right : Trail}

theorem eq_of_timeline (timeline : left.timeline = right.timeline)
    (behind : left.behind.length = right.behind.length) : left = right := by
  rcases left with ⟨leftBehind, leftCurrent, leftAhead⟩
  rcases right with ⟨rightBehind, rightCurrent, rightAhead⟩
  have same : leftBehind.reverse ++ leftCurrent :: leftAhead =
      rightBehind.reverse ++ rightCurrent :: rightAhead := by
    simpa [Trail.timeline, history] using timeline
  rcases List.append_inj same (by simpa using behind) with ⟨before, after⟩
  cases List.reverse_inj.mp before
  cases after
  rfl

/-- A trail is all there is to be seen. -/
theorem eq_iff_shown :
    left = right ↔
      left.history = right.history ∧ left.forwardHistory = right.forwardHistory := by
  constructor
  · intro same
    exact ⟨congrArg Trail.history same, congrArg Trail.forwardHistory same⟩
  · intro shown
    rcases shown with ⟨history, forward⟩
    have ahead : left.ahead = right.ahead := List.reverse_inj.mp forward
    apply eq_of_timeline
    · rw [timeline, timeline, history, ahead]
    · have length := congrArg List.length history
      rw [length_history, length_history] at length
      exact Nat.succ_inj.mp length

theorem eq_iff_length_behind (timeline : left.timeline = right.timeline) :
    left = right ↔ left.behind.length = right.behind.length :=
  ⟨fun same => congrArg (·.behind.length) same, eq_of_timeline timeline⟩

section

variable (trail : Trail) (count first second : Nat)

theorem length_ahead_retreat :
    (trail.retreat count).ahead.length =
      trail.ahead.length + min count trail.behind.length := by
  have before := length_timeline trail
  have after := length_timeline (trail.retreat count)
  rw [timeline_retreat, length_behind_retreat] at after
  omega

theorem length_ahead_advance :
    (trail.advance count).ahead.length = trail.ahead.length - count := by
  have before := length_timeline trail
  have after := length_timeline (trail.advance count)
  rw [timeline_advance, length_behind_advance] at after
  omega

theorem retreat_retreat :
    (trail.retreat first).retreat second = trail.retreat (first + second) := by
  apply eq_of_timeline
  · simp only [timeline_retreat]
  · simp only [length_behind_retreat]
    omega

theorem advance_advance :
    (trail.advance first).advance second = trail.advance (first + second) := by
  apply eq_of_timeline
  · simp only [timeline_advance]
  · simp only [length_behind_advance, length_ahead_advance]
    omega

/-- Having been stopped at the oldest path, one goes forward too far if anything is ahead. -/
theorem advance_retreat_eq_iff :
    (trail.retreat count).advance count = trail ↔
      count ≤ trail.behind.length ∨ trail.ahead.length = 0 := by
  rw [eq_iff_length_behind (by simp only [timeline_advance, timeline_retreat])]
  simp only [length_behind_advance, length_behind_retreat, length_ahead_retreat]
  omega

theorem retreat_advance_eq_iff :
    (trail.advance count).retreat count = trail ↔
      count ≤ trail.ahead.length ∨ trail.behind.length = 0 := by
  rw [eq_iff_length_behind (by simp only [timeline_advance, timeline_retreat])]
  simp only [length_behind_retreat, length_behind_advance]
  omega

end

end Trail

namespace Navigator

/-- Whether two navigators show the same paths, where they have been and where they may go
forward to. -/
def SamePaths (left right : Navigator) : Prop :=
  left.history = right.history ∧ left.forwardHistory = right.forwardHistory

theorem samePaths_iff {left right : Navigator} : left.SamePaths right ↔ left.trail = right.trail :=
  Trail.eq_iff_shown.symm

/-! ### Moves along the trail

A move that is not made, because it is no step at all or there is nothing in that
direction, would leave the trail as it is anyway. -/

section

variable {navigator : Navigator} (within : navigator.WithinLimit) (count : Int)

include within

theorem trail_back :
    (navigator.apply (.back count)).navigator.trail =
      navigator.trail.retreat count.toNat := by
  have effect := effect_apply within (.back count)
  generalize navigator.apply (.back count) = step at effect
  cases effect with
  | stayedBack nowhere =>
      rw [canGoBack_iff, history, Trail.length_history] at nowhere
      change navigator.trail = _
      apply Trail.eq_of_timeline
      · rw [Trail.timeline_retreat]
      · rw [Trail.length_behind_retreat]
        omega
  | retreated => rfl

theorem trail_forward :
    (navigator.apply (.forward count)).navigator.trail =
      navigator.trail.advance count.toNat := by
  have effect := effect_apply within (.forward count)
  generalize navigator.apply (.forward count) = step at effect
  cases effect with
  | stayedForward nowhere =>
      rw [canGoForward_iff, ← List.length_pos_iff, forwardHistory, Trail.forwardHistory,
        List.length_reverse] at nowhere
      change navigator.trail = _
      apply Trail.eq_of_timeline
      · rw [Trail.timeline_advance]
      · rw [Trail.length_behind_advance]
        omega
  | advanced => rfl

end

/-- Wherever a navigator has got to, with whatever limit, going back so many steps and
forward as many leaves everything as it was exactly if there are as many paths to go back
to, or none to go forward to. Going forward and back does so exactly if there are as many
paths to go forward to, or none to go back to. Two ways in the same direction can be made
in one. -/
theorem back_and_forth {initial : String} {config : Config} {navigator : Navigator}
    (reached : Reached initial config navigator) :
    (∀ count : Int, 1 ≤ count →
      ((navigator.applyAll [.back count, .forward count]).SamePaths navigator ↔
        count ≤ navigator.history.length - 1 ∨ navigator.forwardHistory = []) ∧
      ((navigator.applyAll [.forward count, .back count]).SamePaths navigator ↔
        count ≤ navigator.forwardHistory.length ∨ navigator.history.length = 1)) ∧
    ∀ first second : Int, 0 ≤ first → 0 ≤ second →
      (navigator.applyAll [.back first, .back second]).SamePaths
        (navigator.applyAll [.back (first + second)]) ∧
      (navigator.applyAll [.forward first, .forward second]).SamePaths
        (navigator.applyAll [.forward (first + second)]) := by
  have within := reached.withinLimit
  have behind : navigator.history.length = navigator.trail.behind.length + 1 :=
    Trail.length_history navigator.trail
  have ahead : navigator.forwardHistory.length = navigator.trail.ahead.length :=
    List.length_reverse
  constructor
  · intro count positive
    have backForth : (navigator.applyAll [.back count, .forward count]).trail =
        (navigator.trail.retreat count.toNat).advance count.toNat :=
      (trail_forward (within.apply _) count).trans
        (congrArg (·.advance count.toNat) (trail_back within count))
    have forthBack : (navigator.applyAll [.forward count, .back count]).trail =
        (navigator.trail.advance count.toNat).retreat count.toNat :=
      (trail_back (within.apply _) count).trans
        (congrArg (·.retreat count.toNat) (trail_forward within count))
    rw [samePaths_iff, samePaths_iff, backForth, forthBack, Trail.advance_retreat_eq_iff,
      Trail.retreat_advance_eq_iff, ← List.length_eq_zero_iff, behind, ahead]
    omega
  · intro first second firstSteps secondSteps
    have total : (first + second).toNat = first.toNat + second.toNat :=
      Int.toNat_add firstSteps secondSteps
    have backTwice : (navigator.applyAll [.back first, .back second]).trail =
        (navigator.trail.retreat first.toNat).retreat second.toNat :=
      (trail_back (within.apply _) second).trans
        (congrArg (·.retreat second.toNat) (trail_back within first))
    have forthTwice : (navigator.applyAll [.forward first, .forward second]).trail =
        (navigator.trail.advance first.toNat).advance second.toNat :=
      (trail_forward (within.apply _) second).trans
        (congrArg (·.advance second.toNat) (trail_forward within first))
    have backOnce : (navigator.applyAll [.back (first + second)]).trail =
        navigator.trail.retreat (first + second).toNat := trail_back within _
    have forthOnce : (navigator.applyAll [.forward (first + second)]).trail =
        navigator.trail.advance (first + second).toNat := trail_forward within _
    rw [samePaths_iff, samePaths_iff, backTwice, forthTwice, backOnce, forthOnce, total,
      Trail.retreat_retreat, Trail.advance_advance]
    exact ⟨rfl, rfl⟩

/-- At the older of two paths, with room for no more, there is nowhere to go back to, so
that going forward after that leads away; the other way round the way back is stopped where
it should be. -/
theorem back_and_forth_clamped :
    let navigator := (start "/" roomForTwo).applyAll
      [.navigate "a" false, .navigate "b" false, .back 1]
    ¬(navigator.applyAll [.back 2, .forward 2]).SamePaths navigator ∧
      (navigator.applyAll [.forward 2, .back 2]).SamePaths navigator ∧
      (navigator.applyAll [.forward 0, .forward 4]).SamePaths
        (navigator.applyAll [.forward 4]) := by
  intro navigator
  have told := back_and_forth (.moved _ : Reached "/" roomForTwo navigator)
  have few : ¬((2 : Int) ≤ navigator.history.length - 1 ∨ navigator.forwardHistory = []) := by
    decide +kernel
  have single : navigator.history.length = 1 := by decide +kernel
  have twice := told.1 2 (by decide)
  exact ⟨mt twice.1.mp few, twice.2.mpr (.inr single), (told.2 0 4 (by decide) (by decide)).2⟩

end Navigator

end Router
