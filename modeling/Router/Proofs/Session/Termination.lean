import Mathlib.Algebra.GroupWithZero.Nat
import Router.Bindings
import Router.Proofs.Session.Audience
import Router.Proofs.Session.Depth

namespace Router

/-! ## Sessions come to an end

Listeners that act on a limited number of their calls only, whatever they do then, bring
every session to an end: each operation returns or raises a failure, and so does the whole
session. The depth to which calls nest is bounded by the calls on which listeners are
still to act. -/

/-! ### Totals -/

namespace Bindings

variable {Key Value : Type} [DecidableEq Key] (weight : Value → Nat)

def total (bindings : Bindings Key Value) : Nat :=
  (bindings.entries.map fun entry => weight entry.2).sum

theorem total_insert_of_find? {bindings : Bindings Key Value} {key : Key} {former : Value}
    (found : bindings.find? key = some former) (value : Value) :
    (bindings.insert key value).total weight + weight former =
      bindings.total weight + weight value := by
  obtain ⟨entries⟩ := bindings
  change entries.lookup key = some former at found
  change ((insertEntry key value entries).map fun entry => weight entry.2).sum + _ =
    (entries.map fun entry => weight entry.2).sum + _
  induction entries with
  | nil => cases found
  | cons entry rest induction =>
      by_cases same : entry.1 = key
      · rw [← same, List.lookup_cons_self, Option.some_inj] at found
        rw [insertEntry, if_pos same, List.map_cons, List.map_cons, List.sum_cons,
          List.sum_cons, found]
        change weight value + _ + weight former = weight former + _ + weight value
        omega
      · have different : (key == entry.1) = false := by
          simpa using fun equal => same equal.symm
        rw [List.lookup_cons, different] at found
        rw [insertEntry, if_neg same, List.map_cons, List.map_cons, List.sum_cons,
          List.sum_cons, Nat.add_assoc, induction found, Nat.add_assoc]

theorem total_insert_of_notMem {bindings : Bindings Key Value} {key : Key}
    (fresh : key ∉ bindings.entries.map (·.1)) (value : Value) :
    (bindings.insert key value).total weight = bindings.total weight + weight value := by
  rw [total, insert, insertEntry_of_notMem fresh, List.map_append, List.sum_append]
  simp [total]

end Bindings

/-! ### Listeners that tire -/

/-- What listeners remember, and on how many more calls each of them is to act. A
listener for which nothing is bound never acts. -/
structure Tiring (Memory : Type) where
  own : Memory
  stamina : Bindings Listener Nat

variable {Memory : Type}

namespace Tiring

def exert (listener : Listener) (left : Nat) (tiring : Tiring Memory) : Tiring Memory :=
  { tiring with stamina := tiring.stamina.insert listener left }

/-- On how many more calls all listeners together are to act. -/
def total (tiring : Tiring Memory) : Nat :=
  tiring.stamina.total id

theorem total_exert {tiring : Tiring Memory} {listener : Listener} {left : Nat}
    (found : tiring.stamina.find? listener = some (left + 1)) :
    (tiring.exert listener left).total + 1 = tiring.total := by
  have totals := Bindings.total_insert_of_find? id found left
  simp only [total, exert, id] at totals ⊢
  omega

end Tiring

/-- The session as it is for listeners that know nothing of their stamina. -/
def Session.own (session : Session (Tiring Memory)) : Session Memory where
  navigator := session.navigator
  subscribers := session.subscribers
  memory := session.memory.own
  begun := session.begun

/-- A reaction that leaves stamina alone. -/
def Reaction.tiring : Reaction Memory → Reaction (Tiring Memory)
  | .finish => .finish
  | .raise message => .raise message
  | .consult next => .consult fun session => (next session.own).tiring
  | .remember update next =>
      .remember (fun memory => { memory with own := update memory.own }) next.tiring
  | .perform operation next => .perform operation fun failure => (next failure).tiring

/-- Each listener does what it would do on as many calls as its stamina allows, and on
later calls nothing. -/
def Behaviour.tiring (behaviour : Behaviour Memory) : Behaviour (Tiring Memory) :=
  fun listener heard => .consult fun session =>
    match session.memory.stamina.find? listener with
    | some (left + 1) => .remember (Tiring.exert listener left) (behaviour listener heard).tiring
    | _ => .finish

theorem Reaction.keeps_tiring {during final : Tiring Memory → Prop}
    (leaves : ∀ memory own, during memory → during { memory with own })
    (ends : ∀ memory, during memory → final memory) (reaction : Reaction Memory)
    {memory : Tiring Memory} (holds : during memory) :
    reaction.tiring.Keeps during final memory := by
  induction reaction generalizing memory with
  | finish | raise => exact ends memory holds
  | consult next induction => exact fun session same => induction session.own holds
  | remember update next induction => exact induction (leaves memory _ holds)
  | perform operation next induction =>
      exact ⟨holds, fun failure memory holds => induction failure holds⟩

theorem Behaviour.tires_tiring (behaviour : Behaviour Memory) :
    behaviour.tiring.Tires fun left memory => memory.total ≤ left := by
  intro listener heard left memory within session same
  subst same
  dsimp only
  split
  · next remaining found =>
      have spent := Tiring.total_exert found
      refine Reaction.keeps_tiring (fun _ _ holds => holds) ?_ _
        ⟨_, show (session.memory.exert listener remaining).total < left by omega, Nat.le_refl _⟩
      intro memory ⟨fewer, less, holds⟩
      omega
  · exact within

namespace Session

/-- Where every listener acts on a limited number of its calls only, each operation and
each session of clients returns or raises a failure. A depth greater than the number of
calls on which listeners are still to act is never used up, and all such depths lead to
the same run. -/
theorem tiring_sessions_end (behaviour : Behaviour Memory) (session : Session (Tiring Memory)) :
    (∀ operation, ∃ run : Run (Tiring Memory), run.outcome ≠ .exhausted ∧
      ∀ depth > session.memory.total,
        perform behaviour.tiring depth operation session = run) ∧
    ∀ clients : List (Reaction Memory), ∃ runs : List (Run (Tiring Memory)),
      (∀ run ∈ runs, run.outcome ≠ .exhausted) ∧
      ∀ depth > session.memory.total,
        play behaviour.tiring depth (clients.map Reaction.tiring) session = runs := by
  have enough := Nat.lt_succ_self session.memory.total
  constructor
  · intro operation
    have settles := settles_perform behaviour.tires_tiring enough operation (Nat.le_refl _)
    exact ⟨_, settles.finished, fun depth greater => perform_of_le greater settles.finished⟩
  · intro clients
    have keeps : ∀ client ∈ clients.map Reaction.tiring, ∀ memory : Tiring Memory,
        memory.total ≤ session.memory.total →
        client.Keeps (·.total ≤ session.memory.total) (·.total ≤ session.memory.total)
          memory := by
      intro client member memory within
      rcases List.mem_map.mp member with ⟨reaction, -, rfl⟩
      exact reaction.keeps_tiring (fun _ _ holds => holds) (fun _ holds => holds) within
    have finished := finished_play behaviour.tires_tiring enough keeps (Nat.le_refl _)
    exact ⟨_, finished, fun depth greater => play_of_le greater finished⟩

/-- On every call the listener subscribes itself once more and navigates on. -/
def echo : Behaviour Unit := fun listener _ =>
  .perform (.subscribe listener) fun _ =>
    .perform (.move (.navigate "a" false)) fun _ => .finish

/-- A session with the echo as its listener, which is to act twice. -/
def echoing (navigator : Navigator) : Session (Tiring Unit) where
  navigator
  subscribers := ["echo"]
  memory := { own := (), stamina := .ofList [("echo", 2)] }

/-- The echo is called once, then twice and then three times. -/
theorem tiring_sessions_end_echoing :
    let session := echoing (.start "/" {})
    3 > session.memory.total ∧
    ∃ run : Run (Tiring Unit), run.outcome = .returned ∧
      run.events.filterMap Event.listener? = List.replicate 6 ("echo" : Listener) ∧
      run.session.navigator.path = "/a/a/a" ∧
      perform echo.tiring 3 (.move (.navigate "a" false)) session = run := by
  intro session
  have enough : 3 > session.memory.total := by decide
  rcases (tiring_sessions_end echo session).1 (.move (.navigate "a" false)) with
    ⟨run, -, same⟩
  refine ⟨enough, run, ?_, ?_, ?_, same 3 enough⟩
  all_goals
    rw [← same 3 enough]
    decide +kernel

end Session

end Router
