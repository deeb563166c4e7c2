import Router.Proofs.Navigator.Effect

namespace Router.Navigator

/-! ## Moves with an effect

A move has no effect if it leads nowhere else. It then changes nothing and is not
announced. Every other move is announced by the last action it leaves behind, which is
none after a clear. -/

/-- Whether a move does anything. A clear always does. -/
def Effective (navigator : Navigator) : Move → Prop
  | .navigate target _ => Path.resolve navigator.path target ≠ navigator.path
  | .back count => 1 ≤ count ∧ 1 < navigator.history.length
  | .forward count => 1 ≤ count ∧ navigator.forwardHistory ≠ []
  | .clear => True

instance (navigator : Navigator) : DecidablePred navigator.Effective
  | .navigate target _ =>
      inferInstanceAs (Decidable (Path.resolve navigator.path target ≠ navigator.path))
  | .back count =>
      inferInstanceAs (Decidable (1 ≤ count ∧ 1 < navigator.history.length))
  | .forward count =>
      inferInstanceAs (Decidable (1 ≤ count ∧ navigator.forwardHistory ≠ []))
  | .clear => .isTrue trivial

namespace Effect

variable {navigator : Navigator} {move : Move} {step : Step}

/-- A move that does nothing leaves the navigator alone and is not announced. -/
theorem of_not_effective (effect : Effect navigator move step)
    (idle : ¬navigator.Effective move) :
    step.navigator = navigator ∧ step.announcement = none := by
  cases effect with
  | ignored | stayedBack | stayedForward => exact ⟨rfl, rfl⟩
  | replaced different | pushed different | overflowed different => exact absurd different idle
  | retreated positive possible => exact absurd ⟨positive, canGoBack_iff.mp possible⟩ idle
  | advanced positive possible => exact absurd ⟨positive, canGoForward_iff.mp possible⟩ idle
  | cleared => exact absurd trivial idle

theorem announcement_of_effective (effect : Effect navigator move step)
    (effective : navigator.Effective move) :
    step.announcement = some step.navigator.lastAction := by
  cases effect with
  | ignored same => exact absurd same effective
  | stayedBack nowhere => exact absurd ⟨effective.1, canGoBack_iff.mpr effective.2⟩ nowhere
  | stayedForward nowhere => exact absurd ⟨effective.1, canGoForward_iff.mpr effective.2⟩ nowhere
  | replaced | pushed | overflowed | retreated | advanced | cleared => rfl

end Effect

/-- What effective moves announce when they are made one after the other, each with the
number of its move. -/
def newsAlong : Navigator → Nat → List Move → List (Nat × Option Action)
  | _, _, [] => []
  | navigator, number, move :: moves =>
      let next := (navigator.apply move).navigator
      (if navigator.Effective move then [(number, next.lastAction)] else []) ++
        newsAlong next (number + 1) moves

theorem newsAlong_append (navigator : Navigator) (number : Nat) (earlier later : List Move) :
    newsAlong navigator number (earlier ++ later) =
      newsAlong navigator number earlier ++
        newsAlong (navigator.applyAll earlier) (number + earlier.length) later := by
  induction earlier generalizing navigator number with
  | nil => rfl
  | cons move earlier induction =>
      simp only [List.cons_append, newsAlong, applyAll_cons, List.length_cons]
      rw [induction, List.append_assoc, Nat.add_assoc, Nat.add_comm 1]

end Router.Navigator
