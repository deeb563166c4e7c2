import Mathlib.Algebra.Order.BigOperators.Group.List
import Mathlib.Algebra.Order.Ring.Nat
import Router.Proofs.Session.Termination
import Router.Session.Script

namespace Router.Script

/-! ## Scripts come to an end

The plans of a script provide for so many calls to act on, those of listeners included
that come in on the calls of others. The depth at which a script is run is greater, so
that no report of a script is cut short. -/

mutual

/-- The listeners that a command may bring in, at once or on their calls, each with the
plan it then brings along. -/
def offers : Command → List (Listener × Plan)
  | .subscribe listener _ times commands complaint =>
      (listener, { times, commands, complaint }) :: offersIn commands
  | _ => []

def offersIn : List Command → List (Listener × Plan)
  | [] => []
  | command :: rest => offers command ++ offersIn rest

end

theorem offers_subset {command : Command} {commands : List Command}
    (given : command ∈ commands) : offers command ⊆ offersIn commands := by
  rcases List.append_of_mem given with ⟨before, after, rfl⟩
  induction before with
  | nil => exact List.subset_append_left ..
  | cons first before induction =>
      exact List.subset_append_of_subset_right _ (induction (by simp))

/-- On how many calls a listener is to act that may still come in with this plan. -/
def Memory.awaits (memory : Memory) (offer : Listener × Plan) : Nat :=
  if memory.plans.contains offer.1 then 0 else offer.2.times

def pending (offered : List (Listener × Plan)) (memory : Memory) : Nat :=
  (offered.map memory.awaits).sum

mutual

theorem actingCalls_eq : ∀ command, actingCalls command = pending (offers command) {}
  | .subscribe _ _ _ commands _ => by
      rw [actingCalls, offers, actingCallsIn_eq commands]
      rfl
  | .move _ | .isActive _ _ _ | .describe | .unsubscribe _ => rfl

theorem actingCallsIn_eq : ∀ commands, actingCallsIn commands = pending (offersIn commands) {}
  | [] => rfl
  | command :: rest => by
      rw [actingCallsIn, offersIn, actingCalls_eq command, actingCallsIn_eq rest, pending,
        pending, pending, List.map_append, List.sum_append]

end

theorem pending_congr {memory later : Memory} (offered : List (Listener × Plan))
    (same : ∀ listener, later.plans.contains listener = memory.plans.contains listener) :
    pending offered later = pending offered memory := by
  have awaits : later.awaits = memory.awaits := by
    funext offer
    rw [Memory.awaits, Memory.awaits, same]
  rw [pending, pending, awaits]

/-- What was counted for listeners that might come in is no longer counted once they
have. -/
theorem pending_insert {offered : List (Listener × Plan)} {memory later : Memory}
    {listener : Listener} {plan : Plan} (offer : (listener, plan) ∈ offered)
    (fresh : ¬memory.plans.contains listener)
    (inserted : later.plans = memory.plans.insert listener plan) :
    pending offered later + plan.times ≤ pending offered memory := by
  have known : later.plans.contains listener := by
    rw [inserted, Bindings.contains, Bindings.find?_insert_self]
    rfl
  have fewer : ∀ other, later.awaits other ≤ memory.awaits other := by
    intro other
    by_cases same : other.1 = listener
    · rw [Memory.awaits, same, if_pos known]
      exact Nat.zero_le _
    · rw [Memory.awaits, Memory.awaits, inserted, Bindings.contains, Bindings.contains,
        Bindings.find?_insert_of_ne _ same]
  have gone : later.awaits (listener, plan) = 0 := if_pos known
  have awaited : memory.awaits (listener, plan) = plan.times := if_neg fresh
  rcases List.append_of_mem offer with ⟨before, after, rfl⟩
  have left : (before.map later.awaits).sum ≤ (before.map memory.awaits).sum :=
    List.sum_le_sum fun other _ => fewer other
  have right : (after.map later.awaits).sum ≤ (after.map memory.awaits).sum :=
    List.sum_le_sum fun other _ => fewer other
  simp only [pending, List.map_append, List.map_cons, List.sum_append, List.sum_cons]
  omega

/-- Listeners with plans bring in nobody but those offered. At most so many calls are left
to act on, those of listeners included that may still come in. -/
structure Memory.Within (offered : List (Listener × Plan)) (left : Nat) (memory : Memory) :
    Prop where
  planned : ∀ entry ∈ memory.plans.entries, offersIn entry.2.commands ⊆ offered
  calls : memory.plans.total Plan.times + pending offered memory ≤ left

namespace Memory.Within

variable {offered : List (Listener × Plan)} {left : Nat} {memory : Memory}

theorem start (offered : List (Listener × Plan)) :
    Memory.Within offered (pending offered {}) {} :=
  ⟨fun _ member => (nomatch member), Nat.le_of_eq (Nat.zero_add _)⟩

theorem le (within : memory.Within offered left) {more : Nat} (le : left ≤ more) :
    memory.Within offered more :=
  ⟨within.planned, Nat.le_trans within.calls le⟩

/-- A listener that comes in acts on no more calls than were counted for it before. -/
theorem enlist (within : memory.Within offered left) {listener : Listener} {plan : Plan}
    (offer : (listener, plan) ∈ offered) (brings : offersIn plan.commands ⊆ offered)
    (handle : String) : (memory.enlist listener handle plan).Within offered left := by
  by_cases known : memory.plans.contains listener
  · have same : (memory.enlist listener handle plan).plans = memory.plans := if_pos known
    have awaited : pending offered (memory.enlist listener handle plan) =
        pending offered memory := pending_congr offered fun other => by rw [same]
    constructor
    · rw [same]
      exact within.planned
    · rw [same, awaited]
      exact within.calls
  · have inserted : (memory.enlist listener handle plan).plans =
        memory.plans.insert listener plan := if_neg known
    have fresh : listener ∉ memory.plans.keys := mt Bindings.contains_iff.mpr known
    constructor
    · rw [inserted, Bindings.insert, Bindings.insertEntry_of_notMem fresh,
        List.forall_mem_append, List.forall_mem_singleton]
      exact ⟨within.planned, brings⟩
    · have calls := within.calls
      have counted := pending_insert offer known inserted
      rw [inserted, Bindings.total_insert_of_notMem _ fresh]
      omega

/-- A listener that is to act on a call has one call less left when it does. -/
theorem countDown (within : memory.Within offered left) {listener : Listener} {plan : Plan}
    (found : memory.plans.find? listener = some plan) (acts : plan.times ≠ 0) :
    ∃ fewer < left, (memory.countDown listener).Within offered fewer := by
  let spent : Plan := { plan with times := plan.times - 1 }
  have inserted : (memory.countDown listener).plans = memory.plans.insert listener spent := by
    rw [Memory.countDown, found]
  have awaited : pending offered (memory.countDown listener) = pending offered memory := by
    refine pending_congr offered fun other => ?_
    rw [inserted, Bindings.contains, Bindings.contains]
    by_cases same : other = listener
    · rw [same, Bindings.find?_insert_self, found]
      rfl
    · rw [Bindings.find?_insert_of_ne _ same]
  have fewer : spent.times = plan.times - 1 := rfl
  have counted := Bindings.total_insert_of_find? Plan.times found spent
  have calls := within.calls
  refine ⟨left - 1, by omega, ?_, ?_⟩
  · intro entry member
    rw [inserted] at member
    rcases Bindings.mem_insertEntry member with rfl | former
    · exact within.planned (listener, plan) (Bindings.mem_of_find? found)
    · exact within.planned entry former
  · rw [inserted, awaited]
    omega

end Memory.Within

/-! ### Commands and plans -/

section

variable {offered : List (Listener × Plan)} {during final : Memory → Prop}
  (enlists : ∀ listener handle plan memory, (listener, plan) ∈ offered →
    offersIn plan.commands ⊆ offered → during memory →
    during (memory.enlist listener handle plan))
  {next : Reaction Memory} (continues : ∀ memory, during memory → next.Keeps during final memory)
  (raises : ∀ memory, during memory → final memory)

include continues raises

theorem keeps_unlessFailed (failure : Option String) {memory : Memory} (holds : during memory) :
    (unlessFailed next failure).Keeps during final memory := by
  cases failure with
  | none => exact continues memory holds
  | some message => exact raises memory holds

include enlists

theorem keeps_react {command : Command} (offer : offers command ⊆ offered) {memory : Memory}
    (holds : during memory) : (react next command).Keeps during final memory := by
  have performs : ∀ operation memory, during memory →
      (Reaction.perform operation (unlessFailed next)).Keeps during final memory :=
    fun _ memory holds => ⟨holds, fun failure _ holds =>
      keeps_unlessFailed continues raises failure holds⟩
  cases command with
  | move move => exact performs _ _ holds
  | isActive | describe => exact continues memory holds
  | subscribe listener handle times commands complaint =>
      rw [offers, List.cons_subset] at offer
      exact performs (.subscribe listener) _
        (enlists listener handle _ memory offer.1 offer.2 holds)
  | unsubscribe handle =>
      intro session same
      dsimp only
      split
      · exact continues memory holds
      · exact performs _ _ holds

end

theorem keeps_reaction {offered : List (Listener × Plan)} {during final : Memory → Prop}
    (enlists : ∀ listener handle plan memory, (listener, plan) ∈ offered →
      offersIn plan.commands ⊆ offered → during memory →
      during (memory.enlist listener handle plan))
    (ends : ∀ memory, during memory → final memory) {plan : Plan}
    (offer : offersIn plan.commands ⊆ offered) {memory : Memory} (holds : during memory) :
    plan.reaction.Keeps during final memory := by
  obtain ⟨times, commands, complaint⟩ := plan
  rw [Plan.reaction]
  induction commands generalizing memory with
  | nil => cases complaint <;> exact ends memory holds
  | cons command rest induction =>
      rw [offersIn, List.append_subset] at offer
      exact keeps_react enlists (fun memory holds => induction holds offer.2) ends offer.1 holds

theorem tires_behaviour (offered : List (Listener × Plan)) :
    behaviour.Tires (Memory.Within offered) := by
  intro listener heard left memory within session same
  subst same
  dsimp only
  split
  · exact within
  · next plan found =>
      split
      · exact within
      · next acts =>
          refine keeps_reaction ?_ ?_ (within.planned _ (Bindings.mem_of_find? found))
            (within.countDown found acts)
          · intro listener handle plan memory offer brings ⟨fewer, less, within⟩
            exact ⟨fewer, less, within.enlist offer brings handle⟩
          · intro memory ⟨fewer, less, within⟩
            exact within.le (Nat.le_of_lt less)

/-- No command of a script is cut short, and every greater depth leads to the same
reports. -/
theorem run_finished (navigator : Navigator) (commands : List Command) :
    let runs := fun depth => Session.play behaviour depth (commands.map (react .finish))
      { navigator, memory := {} }
    (∀ run ∈ runs (actingCallsIn commands + 1), run.outcome ≠ .exhausted) ∧
    ∀ depth > actingCallsIn commands,
      run navigator commands = List.zipWith report commands (runs depth) := by
  intro runs
  have finished : ∀ run ∈ runs (actingCallsIn commands + 1), run.outcome ≠ .exhausted := by
    rw [actingCallsIn_eq]
    refine Session.finished_play (tires_behaviour (offersIn commands))
      (Nat.lt_succ_self _) ?_ (.start (offersIn commands))
    intro client member memory within
    rcases List.mem_map.mp member with ⟨command, given, rfl⟩
    exact keeps_react (fun _ handle _ _ offer brings within => within.enlist offer brings handle)
      (fun _ within => within) (fun _ within => within) (offers_subset given) within
  refine ⟨finished, fun depth greater => ?_⟩
  exact congrArg (List.zipWith report commands) (Session.play_of_le greater finished).symm

end Router.Script
