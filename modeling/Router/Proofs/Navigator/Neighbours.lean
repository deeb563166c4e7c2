import Mathlib.Data.List.Chain
import Router.Proofs.Navigator.BackAndForth

namespace Router

/-! ## Neighbouring paths

A navigation is ignored if it leads to the current path, and it is compared with no other
one. That is enough to keep equal paths apart wherever they are remembered, behind or
ahead, so that every step back or forward leads somewhere else. Only a navigation that
writes over the current path can bring it next to a path like it, which is the one before. -/

namespace Trail

/-- Whether no path is followed by itself, from the oldest one to the last one ahead. -/
def Varied (trail : Trail) : Prop :=
  (trail.history ++ trail.forwardHistory.reverse).IsChain (· ≠ ·)

instance (trail : Trail) : Decidable trail.Varied :=
  inferInstanceAs (Decidable (List.IsChain _ _))

variable {trail : Trail} {path : String}

theorem varied_iff_timeline : trail.Varied ↔ trail.timeline.IsChain (· ≠ ·) := by
  rw [Varied, forwardHistory, List.reverse_reverse, timeline]

/-- Seen from the current path, both directions have to be without repetition. -/
theorem varied_iff :
    trail.Varied ↔
      (trail.current :: trail.behind).IsChain (· ≠ ·) ∧
        (trail.current :: trail.ahead).IsChain (· ≠ ·) := by
  have backward : (trail.behind.reverse ++ [trail.current]).IsChain (· ≠ ·) ↔
      (trail.current :: trail.behind).IsChain (· ≠ ·) := by
    rw [← List.reverse_cons, List.isChain_reverse]
    exact List.IsChain.iff fun _ _ => ne_comm
  rw [varied_iff_timeline, timeline, history, List.append_assoc, List.singleton_append,
    List.isChain_split, backward]

theorem varied_retreat (count : Nat) : (trail.retreat count).Varied ↔ trail.Varied := by
  rw [varied_iff_timeline, timeline_retreat, varied_iff_timeline]

theorem varied_advance (count : Nat) : (trail.advance count).Varied ↔ trail.Varied := by
  rw [varied_iff_timeline, timeline_advance, varied_iff_timeline]

theorem varied_clear (trail : Trail) : trail.clear.Varied :=
  List.isChain_singleton trail.current

namespace Varied

theorem push (varied : trail.Varied) (different : path ≠ trail.current) :
    (trail.push path).Varied := by
  have behind := (varied_iff.mp varied).1
  exact varied_iff.mpr
    ⟨List.isChain_cons_cons.mpr ⟨different, behind⟩, List.isChain_singleton path⟩

theorem forget (varied : trail.Varied) (count : Nat) : (trail.forget count).Varied := by
  rcases varied_iff.mp varied with ⟨behind, ahead⟩
  have nearest := behind.take (trail.behind.length - count + 1)
  rw [List.take_succ_cons] at nearest
  exact varied_iff.mpr ⟨nearest, ahead⟩

/-- Nothing is ahead any more, and the path before is all there is to be compared with. -/
theorem replace_iff (varied : trail.Varied) :
    (trail.replace path).Varied ↔ trail.behind.head? ≠ some path := by
  have behind : trail.behind.IsChain (· ≠ ·) := (varied_iff.mp varied).1.tail
  have replaced : (trail.replace path).Varied ↔ (path :: trail.behind).IsChain (· ≠ ·) := by
    rw [varied_iff]
    exact and_iff_left (List.isChain_singleton path)
  rw [replaced, List.isChain_cons, and_iff_left behind]
  constructor
  · exact fun apart same => apart path same rfl
  · rintro apart before there rfl
    exact apart there

theorem current_retreat_ne (varied : trail.Varied) (somewhere : trail.behind ≠ []) :
    (trail.retreat 1).current ≠ trail.current := by
  have behind := (varied_iff.mp varied).1
  obtain ⟨_ | ⟨nearest, behind⟩, current, ahead⟩ := trail
  · exact absurd rfl somewhere
  · exact (List.isChain_cons_cons.mp behind).1.symm

theorem current_advance_ne (varied : trail.Varied) (somewhere : trail.ahead ≠ []) :
    (trail.advance 1).current ≠ trail.current := by
  have ahead := (varied_iff.mp varied).2
  obtain ⟨behind, current, _ | ⟨nearest, ahead⟩⟩ := trail
  · exact absurd rfl somewhere
  · exact (List.isChain_cons_cons.mp ahead).1.symm

end Varied

end Trail

namespace Navigator

/-- Whether a move has an effect and writes over the current path the one that comes
directly before it. -/
def Doubles (navigator : Navigator) (move : Move) : Prop :=
  ∃ target, move = .navigate target true ∧
    Path.resolve navigator.path target ≠ navigator.path ∧
    navigator.history.dropLast.getLast? = some (Path.resolve navigator.path target)

theorem getLast?_dropLast_history (navigator : Navigator) :
    navigator.history.dropLast.getLast? = navigator.trail.behind.head? := by
  rw [history, Trail.dropLast_history, List.getLast?_reverse]

theorem not_doubles {navigator : Navigator} {move : Move}
    (adding : ∀ target, move ≠ .navigate target true) : ¬navigator.Doubles move := by
  rintro ⟨target, same, -⟩
  exact adding target same

/-- One kind of move brings equal paths next to each other, and every move of this kind
does. -/
theorem Effect.varied_iff {navigator : Navigator} {move : Move} {step : Step}
    (effect : Effect navigator move step) (varied : navigator.trail.Varied) :
    step.navigator.trail.Varied ↔ ¬navigator.Doubles move := by
  cases effect with
  | ignored same =>
      refine iff_of_true varied ?_
      rintro ⟨_, ⟨⟩, different, -⟩
      exact different same
  | @replaced target different =>
      refine (varied.replace_iff).trans (not_congr ?_)
      rw [← getLast?_dropLast_history]
      constructor
      · exact fun before => ⟨target, rfl, different, before⟩
      · rintro ⟨_, ⟨⟩, -, before⟩
        exact before
  | pushed different => exact iff_of_true (varied.push different) (not_doubles (by simp))
  | overflowed different =>
      exact iff_of_true ((varied.push different).forget 1) (not_doubles (by simp))
  | stayedBack | stayedForward => exact iff_of_true varied (not_doubles (by simp))
  | retreated =>
      exact iff_of_true ((Trail.varied_retreat _).mpr varied) (not_doubles (by simp))
  | advanced =>
      exact iff_of_true ((Trail.varied_advance _).mpr varied) (not_doubles (by simp))
  | cleared => exact iff_of_true (Trail.varied_clear _) (not_doubles (by simp))

/-- Moves that bring equal paths next to each other have a first one that does. -/
theorem exists_doubles {navigator : Navigator} (within : navigator.WithinLimit)
    (varied : navigator.trail.Varied) {moves : List Move}
    (repeated : ¬(navigator.applyAll moves).trail.Varied) :
    ∃ earlier move later, moves = earlier ++ move :: later ∧
      (∀ front, front <+: earlier → (navigator.applyAll front).trail.Varied) ∧
      (navigator.applyAll earlier).Doubles move := by
  induction moves generalizing navigator with
  | nil => exact absurd varied repeated
  | cons move moves induction =>
      have effect := effect_apply within move
      by_cases next : (navigator.apply move).navigator.trail.Varied
      · rcases induction (effect.withinLimit within) next repeated with
          ⟨earlier, doubling, later, rfl, before, doubles⟩
        refine ⟨move :: earlier, doubling, later, rfl, fun front isFront => ?_, doubles⟩
        rcases List.prefix_cons_iff.mp isFront with rfl | ⟨rest, rfl, isRest⟩
        · exact varied
        · exact before rest isRest
      · refine ⟨[], move, moves, rfl, fun front isFront => ?_, ?_⟩
        · rw [List.prefix_nil.mp isFront]
          exact varied
        · exact not_not.mp fun single => next ((effect.varied_iff varied).mpr single)

/-- Nowhere does a navigator remember a path next to itself, unless it has replaced one. As
long as it does not, one step back leads elsewhere if there is anything to go back to, and
so does one step forward; and the moves that end this are those that have an effect and
replace the current path by the one directly before it. In a run that ends with equal
neighbours a first such move can be found. -/
theorem neighbours_differ (initial : String) (config : Config) (moves : List Move) :
    let navigator := (start initial config).applyAll moves
    ((∀ target, .navigate target true ∉ moves) → navigator.trail.Varied) ∧
    (navigator.trail.Varied →
      (navigator.canGoBack → (navigator.apply (.back 1)).navigator.path ≠ navigator.path) ∧
      (navigator.canGoForward →
        (navigator.apply (.forward 1)).navigator.path ≠ navigator.path) ∧
      ∀ move,
        ¬(navigator.apply move).navigator.trail.Varied ↔ navigator.Doubles move) ∧
    (¬navigator.trail.Varied → ∃ earlier move later, moves = earlier ++ move :: later ∧
      (∀ front, front <+: earlier →
        ((start initial config).applyAll front).trail.Varied) ∧
      ((start initial config).applyAll earlier).Doubles move) := by
  intro navigator
  have started : (start initial config).trail.Varied := List.isChain_singleton _
  have unlimited := withinLimit_start initial config
  have within : navigator.WithinLimit := unlimited.applyAll moves
  have first (repeated : ¬navigator.trail.Varied) := exists_doubles unlimited started repeated
  refine ⟨fun adding => ?_, fun varied => ⟨fun possible => ?_, fun possible => ?_, ?_⟩, first⟩
  · by_contra repeated
    rcases first repeated with ⟨earlier, move, later, rfl, -, target, rfl, -⟩
    exact adding target (List.mem_append_right earlier List.mem_cons_self)
  · have somewhere : navigator.trail.behind ≠ [] := by simpa [canGoBack] using possible
    rw [path, trail_back within]
    exact varied.current_retreat_ne somewhere
  · have somewhere : navigator.trail.ahead ≠ [] := by simpa [canGoForward] using possible
    rw [path, trail_forward within]
    exact varied.current_advance_ne somewhere
  · intro move
    rw [(effect_apply within move).varied_iff varied, not_not]

/-- Two visits to one path, and a way back to the path between them. -/
def revisiting : List Move :=
  [.navigate "a" false, .navigate "../b" false, .navigate "/a" false, .back 1]

/-- It is the path between them that keeps the two visits apart, until it is replaced. -/
theorem neighbours_differ_replaced :
    ((start "/" {}).applyAll revisiting).trail.Varied ∧
    (((start "/" {}).applyAll revisiting).apply (.back 1)).navigator.path ≠
      ((start "/" {}).applyAll revisiting).path ∧
    (((start "/" {}).applyAll revisiting).apply (.forward 1)).navigator.path ≠
      ((start "/" {}).applyAll revisiting).path ∧
    ¬(((start "/" {}).applyAll revisiting).apply
      (.navigate "../a" true)).navigator.trail.Varied ∧
    ∃ earlier move later,
      revisiting ++ [.navigate "../a" true] = earlier ++ move :: later ∧
      (∀ front, front <+: earlier → ((start "/" {}).applyAll front).trail.Varied) ∧
      ((start "/" {}).applyAll earlier).Doubles move := by
  have told := neighbours_differ "/" {} revisiting
  have longer := neighbours_differ "/" {} (revisiting ++ [.navigate "../a" true])
  have varied := told.1 (by simp [revisiting])
  have doubles : ((start "/" {}).applyAll revisiting).Doubles (.navigate "../a" true) :=
    ⟨"../a", rfl, by decide +kernel, by decide +kernel⟩
  have steps := told.2.1 varied
  exact ⟨varied, steps.1 (by decide +kernel), steps.2.1 (by decide +kernel),
    (steps.2.2 _).mpr doubles, longer.2.2 (by decide +kernel)⟩

end Navigator

end Router
