import Router.Proofs.Navigator.Canonical
import Router.Proofs.Path.Composition

namespace Router

/-! ## Redirections

The target of a redirection is resolved twice, first from the base in force and then, by the
navigator, from its own path. The first leaves a canonical path, which the second cannot
change. So where a redirection leads depends neither on how the base is written nor on where
the navigator was, and one that has been followed does nothing when it is repeated. -/

theorem Path.resolve_resolve (path base target : String) :
    resolve path (resolve base target) = resolve base target :=
  (canonical_resolve base target).resolve_eq path

namespace Trail

theorem current_retreat_ahead (count : Nat) (behind : List String) (current : String)
    (ahead other : List String) :
    (retreat count ⟨behind, current, ahead⟩).current =
      (retreat count ⟨behind, current, other⟩).current := by
  induction count generalizing behind current ahead other with
  | zero => rfl
  | succ count induction =>
      cases behind with
      | nil => rfl
      | cons nearest behind => exact induction behind nearest _ _

/-- Where going back leads does not depend on what it starts from, as long as it leads
anywhere. -/
theorem current_retreat_congr {left right : Trail} (same : left.behind = right.behind)
    (possible : left.behind ≠ []) {count : Nat} (positive : 0 < count) :
    (left.retreat count).current = (right.retreat count).current := by
  rcases left with ⟨behind, leftCurrent, leftAhead⟩
  rcases right with ⟨_, rightCurrent, rightAhead⟩
  cases same
  rcases List.exists_cons_of_ne_nil possible with ⟨nearest, rest, rfl⟩
  rcases Nat.exists_eq_add_one.mpr positive with ⟨fewer, rfl⟩
  exact current_retreat_ahead fewer rest nearest _ _

end Trail

namespace Navigator

variable {navigator landed : Navigator}

/-- What a navigator may have become that was sent to a destination. -/
structure Lands (navigator : Navigator) (destination : String) (replace : Bool)
    (landed : Navigator) : Prop where
  path : landed.path = destination
  /-- The forward branch goes if the path changes, and stays as everything does otherwise. -/
  moved : destination ≠ navigator.path → landed.forwardHistory = []
  unmoved : destination = navigator.path → landed = navigator
  /-- In place of the current path, the destination leaves all below it alone. -/
  length : replace = true → landed.history.length = navigator.history.length
  below : replace = true → landed.history.dropLast = navigator.history.dropLast

theorem Effect.lands {target : String} {replace : Bool} {step : Step}
    (effect : Effect navigator (.navigate target replace) step) :
    navigator.Lands (Path.resolve navigator.path target) replace step.navigator := by
  have arrived := effect.path_navigate
  cases effect with
  | ignored same =>
      exact ⟨arrived, fun different => absurd same different, fun _ => rfl, fun _ => rfl,
        fun _ => rfl⟩
  | replaced different =>
      refine ⟨arrived, fun _ => rfl, fun same => absurd same different, fun _ => ?_, fun _ => ?_⟩
      · simp only [arrive, history, Trail.length_history, Trail.replace]
      · simp only [arrive, history, Trail.dropLast_history, Trail.replace]
  | pushed different | overflowed different =>
      exact ⟨arrived, fun _ => rfl, fun same => absurd same different,
        fun replaces => absurd replaces Bool.false_ne_true,
        fun replaces => absurd replaces Bool.false_ne_true⟩

theorem Lands.behind {destination : String} (lands : navigator.Lands destination true landed) :
    landed.trail.behind = navigator.trail.behind := by
  have below := lands.below rfl
  rw [history, history, Trail.dropLast_history, Trail.dropLast_history] at below
  exact List.reverse_inj.mp below

/-- Whether going back leads two navigators to the same path, or neither of them anywhere. -/
def BackAlike (left right : Navigator) : Prop :=
  ∀ count : Int,
    (left.apply (.back count) = { navigator := left } ∧
      right.apply (.back count) = { navigator := right }) ∨
    (left.canGoBack ∧ right.canGoBack ∧
      (left.apply (.back count)).navigator.path = (right.apply (.back count)).navigator.path)

theorem Lands.backAlike {destination : String}
    (lands : navigator.Lands destination true landed) : BackAlike landed navigator := by
  intro count
  have behind := lands.behind
  have alike : landed.canGoBack = navigator.canGoBack := by
    simp only [canGoBack, behind]
  by_cases possible : 0 < count ∧ navigator.canGoBack
  · refine .inr ⟨alike ▸ possible.2, possible.2, ?_⟩
    have somewhere : landed.trail.behind ≠ [] := by
      simpa [canGoBack, behind] using possible.2
    simp only [apply, alike, if_pos possible]
    exact Trail.current_retreat_congr behind somewhere (Int.lt_toNat.mpr possible.1)
  · left
    simp only [apply, alike, if_neg possible, and_self]

end Navigator

namespace Scope

namespace World

theorem redirect_eq_ok {world : World} {name : String} {navigator : Navigator}
    (around : world.navigator? = some (name, navigator)) (target : String) (replace : Bool) :
    world.redirect target replace =
      .ok (world.moved name navigator
        (.navigate (Path.resolve world.surroundings.base target) replace)) := by
  simp only [redirect, move, current_eq_ok_iff.mpr around]
  rfl

/-- A navigation that is ignored leaves the world as it was, with one more record. -/
theorem moved_of_same {world : World} {name : String} {navigator : Navigator}
    (around : world.navigator? = some (name, navigator)) {target : String}
    (same : Path.resolve navigator.path target = navigator.path) (replace : Bool) :
    world.moved name navigator (.navigate target replace) =
      { world with
        pending :=
          world.pending ++ [.navigationIgnored navigator.path navigator.config.debug] } := by
  have kept := Bindings.insert_of_find? (navigator?_eq_some_iff.mp around).2
  have ignored : navigator.apply (.navigate target replace) =
      { navigator
        records := [.navigationIgnored navigator.path navigator.config.debug] } := by
    simp [Navigator.apply, same]
  simp only [moved, ignored, kept]

end World

/-- Wherever a navigator has got to and whatever base is in force, a redirection lands where
its target points from there. Repeating it changes nothing. In place of the current path it
leaves all below as it was, and with it where going back leads; the forward branch goes if the
path changes and stays otherwise. A base that is not normalized does the same as it would
normalized. -/
theorem redirect_lands {initial : String} {config : Config} {world : World} {name : String}
    {navigator : Navigator} (around : world.navigator? = some (name, navigator))
    (reached : Navigator.Reached initial config navigator) (target : String) (replace : Bool) :
    ∃ after landed, world.redirect target replace = .ok after ∧
      after.surroundings = world.surroundings ∧ after.navigator? = some (name, landed) ∧
      navigator.Lands (Path.resolve world.surroundings.base target) replace landed ∧
      (replace = true → landed.BackAlike navigator) ∧
      (∀ again, after.redirect target again =
        .ok { after with
          pending :=
            after.pending ++ [.navigationIgnored landed.path landed.config.debug] }) ∧
      (world.setBase (Path.normalize [world.surroundings.base])).2.redirect target replace =
        .ok (after.setBase (Path.normalize [world.surroundings.base])).2 := by
  have effect := Navigator.effect_apply reached.withinLimit
    (.navigate (Path.resolve world.surroundings.base target) replace)
  have lands := effect.lands
  rw [Path.resolve_resolve] at lands
  have inside := World.navigator?_moved around
    (.navigate (Path.resolve world.surroundings.base target) replace)
  refine ⟨_, _, World.redirect_eq_ok around target replace, rfl, inside, lands, ?_, ?_, ?_⟩
  · rintro rfl
    exact lands.backAlike
  · intro again
    have arrived := (Path.resolve_resolve (navigator.apply (.navigate
      (Path.resolve world.surroundings.base target) replace)).navigator.path _ target).trans
        lands.path.symm
    rw [World.redirect_eq_ok inside]
    exact congrArg Except.ok (World.moved_of_same inside arrived again)
  · have normalized : (world.setBase (Path.normalize [world.surroundings.base])).2.navigator? =
        some (name, navigator) := around
    rw [World.redirect_eq_ok normalized]
    change Except.ok (World.moved _ name navigator
      (.navigate (Path.resolve (Path.normalize [world.surroundings.base]) target) replace)) = _
    rw [Path.resolve_normalize]
    rfl

/-- Under a base that is not normalized. -/
def astray (navigator : Navigator) : World where
  navigators := .ofList [("main", navigator)]
  surroundings := { navigator := some "main", base := "news//./.." }

/-- The navigator has a path on either side of its own. -/
theorem redirect_lands_climbing :
    let world := astray ((Navigator.start "/" {}).applyAll
      [.navigate "a" false, .navigate "b" false, .back 1])
    ∃ after landed, world.redirect "../error" true = .ok after ∧
      after.navigator? = some ("main", landed) ∧ landed.path = "/error" ∧
      landed.history.dropLast = ["/"] ∧ landed.forwardHistory = [] ∧
      ∃ records, after.redirect "../error" true =
        .ok { after with pending := after.pending ++ records } := by
  intro world
  have around : world.navigator? = some ("main", (Navigator.start "/" {}).applyAll
      [.navigate "a" false, .navigate "b" false, .back 1]) := by decide +kernel
  have destination : Path.resolve world.surroundings.base "../error" = "/error" := by
    decide +kernel
  rcases redirect_lands around (.moved _) "../error" true with
    ⟨after, landed, redirects, -, there, lands, -, again, -⟩
  rw [destination] at lands
  refine ⟨after, landed, redirects, there, lands.path, ?_, lands.moved ?_, _, again true⟩
  · rw [lands.below rfl]
    decide +kernel
  · decide +kernel

end Scope

end Router
