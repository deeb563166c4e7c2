import Router.Proofs.Path.Composition

namespace Router.Path

/-! ## Survival

Whether a segment is still there once a text has been normalized can be told from what
follows it: it is gone if somewhere further on more steps up than down have been taken
since. What stands in front of it does not matter, because a step up that finds nothing to
leave is lost and takes back nothing that comes later. -/

/-- Whether a piece is a step, be it down into a segment or up. -/
def IsStep (piece : String) : Prop :=
  piece ≠ "" ∧ piece ≠ "."

instance (piece : String) : Decidable (IsStep piece) :=
  inferInstanceAs (Decidable (_ ∧ _))

def steps (pieces : List String) : List String :=
  pieces.filter IsStep

/-- The steps taken after a position, up to a later one. -/
def since (steps : List String) (position later : Nat) : List String :=
  (steps.drop (position + 1)).take (later - position)

/-- Whether no more of the steps lead up than down. -/
def Level (steps : List String) : Prop :=
  steps.count ".." ≤ steps.countP (· ≠ "..")

instance (steps : List String) : Decidable (Level steps) :=
  inferInstanceAs (Decidable (_ ≤ _))

/-- Whether the step at a position leads down and the steps since then never lead out of
it. -/
def Survives (steps : List String) (position : Nat) : Prop :=
  steps[position]? ≠ some ".." ∧
    ∀ later < steps.length, position < later → Level (since steps position later)

instance (steps : List String) (position : Nat) : Decidable (Survives steps position) :=
  inferInstanceAs (Decidable (_ ∧ _))

/-- The steps that survive, in the order in which they were taken. -/
def survivors (steps : List String) : List String :=
  ((List.range steps.length).filter fun position => Survives steps position).filterMap
    fun position => steps[position]?

/-! ### How far steps climb -/

theorem not_isStep_iff {piece : String} : ¬IsStep piece ↔ piece = "" ∨ piece = "." := by
  rw [IsStep, not_and_or, not_not, not_not]

theorem isStep_of_mem_steps {pieces : List String} {step : String}
    (member : step ∈ steps pieces) : IsStep step :=
  of_decide_eq_true (List.mem_filter.mp member).2

theorem follow_of_not_isStep {piece : String} (idle : ¬IsStep piece) (place : List String) :
    follow place piece = place := by
  rw [follow, if_pos (not_isStep_iff.mp idle)]

theorem reduce_steps (pieces : List String) : reduce (steps pieces) = reduce pieces := by
  have skips : ∀ place, (steps pieces).foldl follow place = pieces.foldl follow place := by
    induction pieces with
    | nil => exact fun place => rfl
    | cons piece rest induction =>
        intro place
        rw [steps, List.filter_cons]
        split
        · exact induction (follow place piece)
        · next idle =>
            rw [List.foldl_cons, follow_of_not_isStep (by simpa using idle)]
            exact induction place
  rw [reduce, skips, reduce]

/-- Steps climb out of no more segments than one of their stretches from the start leads
up. -/
theorem climb_le_iff {steps : List String} (taken : ∀ step ∈ steps, IsStep step)
    (height : Nat) :
    climb steps ≤ height ↔ ∀ count, (steps.take count).count ".." ≤
      (steps.take count).countP (· ≠ "..") + height := by
  induction steps generalizing height with
  | nil => simp [climb]
  | cons step rest induction =>
      rcases List.forall_mem_cons.mp taken with ⟨first, others⟩
      have named : ¬(step = "" ∨ step = ".") := not_or.mpr first
      rw [climb, if_neg named, ← Nat.and_forall_add_one, and_iff_right (by simp)]
      split
      · next up =>
          subst up
          cases height with
          | zero =>
              -- the first step alone leads higher
              refine iff_of_false (Nat.not_succ_le_zero _) fun within => ?_
              exact absurd (within 0) (by simp)
          | succ height =>
              rw [Nat.succ_le_succ_iff, induction others]
              apply forall_congr'
              intro count
              simp [← Nat.add_assoc]
      · next down =>
          rw [Nat.sub_le_iff_le_add, induction others]
          apply forall_congr'
          intro count
          rw [List.take_succ_cons, List.count_cons_of_ne down,
            List.countP_cons_of_pos (by simpa using down)]
          omega

theorem climb_eq_zero_iff {steps : List String} (taken : ∀ step ∈ steps, IsStep step) :
    climb steps = 0 ↔ ∀ count, Level (steps.take count) := by
  rw [← Nat.le_zero, climb_le_iff taken]
  rfl

/-! ### Which steps survive -/

theorem reduce_cons_up (rest : List String) : reduce (".." :: rest) = reduce rest := rfl

theorem reduce_cons_down {step : String} (taken : IsStep step) (down : step ≠ "..")
    (rest : List String) :
    reduce (step :: rest) = if climb rest = 0 then step :: reduce rest else reduce rest := by
  have alone : reduce [step] = [step] := by
    simp [reduce, follow, not_or.mpr taken, down]
  have split := reduce_append [step] rest
  rw [List.singleton_append, alone] at split
  rw [split]
  cases climb rest <;> simp

theorem survives_zero {step : String} {rest : List String}
    (taken : ∀ step ∈ rest, IsStep step) :
    Survives (step :: rest) 0 ↔ step ≠ ".." ∧ climb rest = 0 := by
  rw [Survives, climb_eq_zero_iff taken, List.getElem?_cons_zero, Option.some_inj.ne]
  apply and_congr_right
  intro _
  constructor
  · intro kept count
    rw [List.take_eq_take_min]
    rcases Nat.eq_zero_or_pos (min count rest.length) with none | some_step
    · rw [none]
      exact Nat.zero_le _
    · exact kept _ (Nat.lt_succ_of_le (Nat.min_le_right _ _)) some_step
  · exact fun level later _ _ => level later

theorem survives_succ (step : String) (rest : List String) (position : Nat) :
    Survives (step :: rest) (position + 1) ↔ Survives rest position := by
  rw [Survives, Survives, List.getElem?_cons_succ, List.length_cons]
  apply and_congr_right
  intro _
  constructor
  · intro kept later within after
    have level := kept (later + 1) (Nat.succ_lt_succ within) (Nat.succ_lt_succ after)
    simpa [since] using level
  · intro kept later within after
    obtain ⟨later, rfl⟩ := Nat.exists_eq_succ_of_ne_zero (Nat.ne_zero_of_lt after)
    have level := kept later (Nat.lt_of_succ_lt_succ within) (Nat.lt_of_succ_lt_succ after)
    simpa [since] using level

theorem survivors_cons (step : String) (rest : List String) :
    survivors (step :: rest) =
      if Survives (step :: rest) 0 then step :: survivors rest else survivors rest := by
  have later : (((List.range rest.length).map Nat.succ).filter fun position =>
      Survives (step :: rest) position).filterMap (fun position => (step :: rest)[position]?) =
        survivors rest := by
    rw [List.filter_map, List.filterMap_map]
    simp only [Function.comp_def, Nat.succ_eq_add_one, survives_succ, List.getElem?_cons_succ]
    rfl
  rw [survivors, List.length_cons, List.range_succ_eq_map, List.filter_cons]
  simp only [decide_eq_true_eq]
  split
  · rw [List.filterMap_cons_some (List.getElem?_cons_zero), later]
  · exact later

/-- A step that leads down stays on the stack exactly if what follows climbs out of
nothing. -/
theorem reduce_eq_survivors {steps : List String} (taken : ∀ step ∈ steps, IsStep step) :
    reduce steps = survivors steps := by
  induction steps with
  | nil => rfl
  | cons step rest induction =>
      rcases List.forall_mem_cons.mp taken with ⟨first, others⟩
      rw [survivors_cons, ← induction others]
      simp only [survives_zero others]
      by_cases up : step = ".."
      · rw [up, reduce_cons_up, if_neg (by simp)]
      · rw [reduce_cons_down first up]
        simp [up]

/-- Normalizing texts leaves of their steps, in order, those that lead down and since when
no more steps up than down have been taken, wherever one stops counting. The normal form
is made of these and nothing else. -/
theorem normalize_leaves_survivors (texts : List String) :
    segments (normalize texts) = survivors (steps (pieces (joined texts))) ∧
      normalize texts = ofSegments (survivors (steps (pieces (joined texts)))) := by
  have isStep : ∀ step ∈ steps (pieces (joined texts)), IsStep step := fun step member =>
    of_decide_eq_true (List.mem_filter.mp member).2
  have reached : segments (joined texts) = survivors (steps (pieces (joined texts))) := by
    rw [← reduce_eq_survivors isStep, reduce_steps]
    rfl
  rw [normalize, segments_ofSegments fun _ => isSegment_of_mem_segments, reached]
  exact ⟨rfl, rfl⟩

/-- The first step up is lost at the root; the others take back both segments. -/
example : segments (normalize ["../a/b", ".//..", "..", "c"]) = ["c"] := by decide +kernel

end Router.Path
