import Mathlib.Data.List.Infix
import Router.Proofs.Path.Survival

namespace Router.Path

/-! ## Ascents

All that a relative target asks of the base it is read from is how high it leads above
the base on its way. So many of the innermost segments are left for good, or all of them
if there are fewer; whatever else the target leaves on its way it had entered itself. -/

/-- How many more of the steps lead up than down. -/
def rise (steps : List String) : Int :=
  steps.count ".." - steps.countP (· ≠ "..")

/-- How high the steps lead above the place where they start, which is the highest rise
of all their stretches from the start. -/
def ascent (steps : List String) : Int :=
  (steps.inits.map rise).max
    (List.ne_nil_of_mem (List.mem_map_of_mem ((List.mem_inits [] steps).mpr List.nil_prefix)))

theorem ascent_le_iff {steps : List String} {height : Int} :
    ascent steps ≤ height ↔ ∀ front, front <+: steps → rise front ≤ height := by
  rw [ascent, List.max_le_iff, List.forall_mem_map]
  simp only [List.mem_inits]

theorem ascent_nonneg (steps : List String) : 0 ≤ ascent steps :=
  ascent_le_iff.mp (Int.le_refl _) [] List.nil_prefix

theorem climb_steps (pieces : List String) : climb (steps pieces) = climb pieces := by
  induction pieces with
  | nil => rfl
  | cons piece rest induction =>
      rw [steps, List.filter_cons]
      split
      · change climb (piece :: steps rest) = _
        rw [climb, climb, induction]
      · next idle =>
          rw [decide_eq_true_eq, not_isStep_iff] at idle
          rw [climb, if_pos idle]
          exact induction

/-- What steps climb out of is what they rise by at most. -/
theorem climb_eq_ascent {steps : List String} (taken : ∀ step ∈ steps, IsStep step) :
    (climb steps : Int) = ascent steps := by
  -- neither can be told from the other by its upper bounds
  have bounds : ∀ height : Nat, climb steps ≤ height ↔ ascent steps ≤ height := by
    intro height
    rw [climb_le_iff taken, ascent_le_iff]
    constructor
    · intro within front before
      have bounded := within front.length
      rw [← List.prefix_iff_eq_take.mp before] at bounded
      rw [rise]
      omega
    · intro within count
      have bounded := within _ (List.take_prefix count steps)
      rw [rise] at bounded
      omega
  rcases Int.eq_ofNat_of_zero_le (ascent_nonneg steps) with ⟨height, reached⟩
  have atMost := (bounds height).mpr (Int.le_of_eq reached)
  have atLeast := (bounds (climb steps)).mp (Nat.le_refl _)
  omega

/-- A relative target leaves as many of the innermost segments of a base as its steps
lead up above their start at most, or all of them if there are fewer, and then adds its
own segments. -/
theorem segments_resolve_of_relative {target : String}
    (relative : isAbsolute target = false) (base : String) :
    segments (resolve base target) =
      (segments base).take
        (max 0 ((segments base).length - ascent (steps (pieces target)))).toNat ++
      segments target := by
  have climbed : (climb (pieces target) : Int) = ascent (steps (pieces target)) := by
    rw [← climb_steps, climb_eq_ascent fun _ => isStep_of_mem_steps]
  have stay : (segments base).length - climb (pieces target) =
      (max 0 ((segments base).length - ascent (steps (pieces target)))).toNat := by
    omega
  have legal : ∀ segment ∈ remaining base target ++ segments target, IsSegment segment := by
    intro segment member
    rcases List.mem_append.mp member with stays | added
    · exact isSegment_of_mem_remaining stays
    · exact isSegment_of_mem_segments added
  rw [resolve_of_relative relative, segments_ofSegments legal, remaining, stay]

/-- The last step up is lost at the root where the base has one segment, and leaves a
second segment where it has more. -/
theorem segments_resolve_of_relative_winding :
    ascent (steps (pieces "../x/../../y")) = 2 ∧
      segments (resolve "/a" "../x/../../y") = ["y"] ∧
      segments (resolve "/a/b/c" "../x/../../y") = ["a", "y"] := by
  have relative : isAbsolute "../x/../../y" = false := by decide +kernel
  refine ⟨by decide +kernel, ?_, ?_⟩
  · exact (segments_resolve_of_relative relative "/a").trans (by decide +kernel)
  · exact (segments_resolve_of_relative relative "/a/b/c").trans (by decide +kernel)

end Router.Path
