import Router.Session

namespace Router

/-! ## How deeply calls nest

A session is provided with a depth to which calls may nest. A run that is not exhausted
is the same at any greater depth. And no run is exhausted where every listener, before it
does anything to the session, gives up one of a limited number of calls on which listeners
act at all: these calls together bound the nesting, however many listeners join in
meanwhile. -/

variable {Memory : Type}

/-! ### More depth than needed -/

namespace Run

theorem andThen_of_exhausted {run : Run Memory} (exhausted : run.outcome = .exhausted)
    (next : Option String → Session Memory → Run Memory) : run.andThen next = run := by
  rw [andThen, exhausted]

theorem andThen_of_finished {run : Run Memory} (finished : run.outcome ≠ .exhausted)
    (next : Option String → Session Memory → Run Memory) :
    run.andThen next = (next run.outcome.failure? run.session).after run.events := by
  rw [andThen]
  split
  · next exhausted => exact absurd exhausted finished
  · rfl

@[simp] theorem outcome_closed (run : Run Memory)
    (event : Option String → Navigator → Event) : (run.closed event).outcome = run.outcome := by
  rw [closed]
  split <;> rfl

@[simp] theorem session_closed (run : Run Memory)
    (event : Option String → Navigator → Event) : (run.closed event).session = run.session := by
  rw [closed]
  split <;> rfl

/-- Another run is the same, unless this one was exhausted. -/
def Upheld (run deeper : Run Memory) : Prop :=
  run.outcome ≠ .exhausted → deeper = run

namespace Upheld

variable {run deeper : Run Memory}

theorem after (upheld : Upheld run deeper) (events : List Event) :
    Upheld (run.after events) (deeper.after events) := by
  intro finished
  rw [upheld finished]

theorem closed (upheld : Upheld run deeper) (event : Option String → Navigator → Event) :
    Upheld (run.closed event) (deeper.closed event) := by
  intro finished
  rw [outcome_closed] at finished
  rw [upheld finished]

theorem andThen {next nextDeeper : Option String → Session Memory → Run Memory}
    (upheld : Upheld run deeper)
    (continues : ∀ failure session,
      Upheld (next failure session) (nextDeeper failure session)) :
    Upheld (run.andThen next) (deeper.andThen nextDeeper) := by
  intro finished
  by_cases exhausted : run.outcome = .exhausted
  · rw [andThen_of_exhausted exhausted] at finished
    exact absurd exhausted finished
  · rw [andThen_of_finished exhausted] at finished ⊢
    rw [upheld exhausted, andThen_of_finished exhausted]
    exact (continues _ _).after _ finished

end Upheld

end Run

theorem Reaction.upheld_follow {perform deeper : Operation → Session Memory → Run Memory}
    (upheld : ∀ operation session,
      (perform operation session).Upheld (deeper operation session))
    (reaction : Reaction Memory) (session : Session Memory) :
    (reaction.follow perform session).Upheld (reaction.follow deeper session) := by
  induction reaction generalizing session with
  | finish | raise => exact fun _ => rfl
  | consult next induction => exact induction session session
  | remember update next induction => exact induction _
  | perform operation next induction =>
      exact (upheld operation session).andThen fun failure session => induction failure session

namespace Session

theorem upheld_announce {call deeper : Listener → Session Memory → Run Memory}
    (upheld : ∀ listener session, (call listener session).Upheld (deeper listener session))
    (listeners : List Listener) (session : Session Memory) :
    (announce call listeners session).Upheld (announce deeper listeners session) := by
  induction listeners generalizing session with
  | nil => exact fun _ => rfl
  | cons listener listeners induction =>
      refine (upheld listener session).andThen fun failure session => ?_
      cases failure with
      | none => exact induction session
      | some message => exact fun _ => rfl

theorem upheld_perform (behaviour : Behaviour Memory) (depth : Nat) (operation : Operation)
    (session : Session Memory) :
    (perform behaviour depth operation session).Upheld
      (perform behaviour (depth + 1) operation session) := by
  -- whatever a listener does is carried out with one level of nesting less
  induction depth generalizing operation session with
  | zero => exact fun finished => absurd rfl finished
  | succ depth induction =>
      cases operation with
      | subscribe | unsubscribe => exact fun _ => rfl
      | move move =>
          rw [perform, perform]
          refine .after (.closed ?_ _) _
          split
          · exact fun _ => rfl
          · refine upheld_announce (fun listener session => ?_) _ _
            exact .after (.closed (Reaction.upheld_follow induction _ _) _) _

theorem perform_of_le {behaviour : Behaviour Memory} {depth deeper : Nat} (le : depth ≤ deeper)
    {operation : Operation} {session : Session Memory}
    (finished : (perform behaviour depth operation session).outcome ≠ .exhausted) :
    perform behaviour deeper operation session = perform behaviour depth operation session := by
  induction le with
  | refl => rfl
  | @step deeper _ induction =>
      rw [← induction] at finished ⊢
      exact upheld_perform behaviour deeper operation session finished

theorem play_of_le {behaviour : Behaviour Memory} {depth deeper : Nat} (le : depth ≤ deeper)
    {clients : List (Reaction Memory)} {session : Session Memory}
    (finished : ∀ run ∈ play behaviour depth clients session, run.outcome ≠ .exhausted) :
    play behaviour deeper clients session = play behaviour depth clients session := by
  induction clients generalizing session with
  | nil => rfl
  | cons client clients induction =>
      rw [play, List.forall_mem_cons] at finished
      have same : client.follow (perform behaviour deeper) session =
          client.follow (perform behaviour depth) session :=
        client.upheld_follow (fun _ _ => perform_of_le le) session finished.1
      rw [play, play, same, induction finished.2]

end Session

/-! ### Depth enough -/

/-- A reaction that begins with this memory carries out operations only while `during`
holds of the memory, and ends with a memory of which `final` holds. Operations are taken to
keep `during`. -/
def Reaction.Keeps (during final : Memory → Prop) : Reaction Memory → Memory → Prop
  | .finish, memory => final memory
  | .raise _, memory => final memory
  | .consult next, memory =>
      ∀ session, session.memory = memory → (next session).Keeps during final memory
  | .remember update next, memory => next.Keeps during final (update memory)
  | .perform _ next, memory =>
      during memory ∧ ∀ failure memory, during memory → (next failure).Keeps during final memory

/-- Where at most so many calls are left to act on, a listener that is called carries out
operations only after it has given up one of them. -/
def Behaviour.Tires (behaviour : Behaviour Memory) (within : Nat → Memory → Prop) : Prop :=
  ∀ listener heard left memory, within left memory →
    (behaviour listener heard).Keeps (fun memory => ∃ fewer < left, within fewer memory)
      (within left) memory

/-- The run is not exhausted and ends with a memory of which `final` holds. -/
structure Run.Settles (run : Run Memory) (final : Memory → Prop) : Prop where
  finished : run.outcome ≠ .exhausted
  memory : final run.session.memory

namespace Run.Settles

variable {run : Run Memory} {middle final : Memory → Prop}

theorem after (settles : run.Settles final) (events : List Event) :
    (run.after events).Settles final :=
  ⟨settles.finished, settles.memory⟩

theorem closed (settles : run.Settles final) (event : Option String → Navigator → Event) :
    (run.closed event).Settles final := by
  constructor
  · rw [outcome_closed]
    exact settles.finished
  · rw [session_closed]
    exact settles.memory

theorem andThen {next : Option String → Session Memory → Run Memory}
    (settles : run.Settles middle)
    (continues : ∀ failure session, middle session.memory →
      (next failure session).Settles final) :
    (run.andThen next).Settles final := by
  rw [andThen_of_finished settles.finished]
  exact (continues _ _ settles.memory).after _

end Run.Settles

theorem Reaction.settles_follow {during final : Memory → Prop}
    {perform : Operation → Session Memory → Run Memory}
    (performs : ∀ operation session, during session.memory →
      (perform operation session).Settles during)
    (reaction : Reaction Memory) {session : Session Memory}
    (keeps : reaction.Keeps during final session.memory) :
    (reaction.follow perform session).Settles final := by
  induction reaction generalizing session with
  | finish | raise => exact ⟨nofun, keeps⟩
  | consult next induction => exact induction session (keeps session rfl)
  | remember update next induction => exact induction keeps
  | perform operation next induction =>
      exact (performs operation session keeps.1).andThen fun failure session during =>
        induction failure (keeps.2 failure session.memory during)

namespace Session

theorem settles_announce {kept : Memory → Prop}
    {call : Listener → Session Memory → Run Memory}
    (calls : ∀ listener session, kept session.memory → (call listener session).Settles kept)
    (listeners : List Listener) {session : Session Memory} (holds : kept session.memory) :
    (announce call listeners session).Settles kept := by
  induction listeners generalizing session with
  | nil => exact ⟨nofun, holds⟩
  | cons listener listeners induction =>
      refine (calls listener session holds).andThen fun failure session holds => ?_
      cases failure with
      | none => exact induction holds
      | some message => exact ⟨nofun, holds⟩

variable {behaviour : Behaviour Memory} {within : Nat → Memory → Prop}

/-- With a greater depth than there are calls left to act on, an operation is not
exhausted, and it adds nothing to these calls. -/
theorem settles_perform (tires : behaviour.Tires within) {depth left : Nat}
    (enough : left < depth) (operation : Operation) {session : Session Memory}
    (holds : within left session.memory) :
    (perform behaviour depth operation session).Settles (within left) := by
  -- an acting listener has fewer calls left, and so has what it does a smaller depth
  induction depth generalizing left operation session with
  | zero => exact absurd enough (Nat.not_lt_zero left)
  | succ depth induction =>
      cases operation with
      | subscribe | unsubscribe => exact ⟨nofun, holds⟩
      | move move =>
          rw [perform]
          refine .after (.closed ?_ _) _
          split
          · exact ⟨nofun, holds⟩
          · next heard told =>
              refine settles_announce (fun listener session holds => ?_) _ holds
              refine .after (.closed (Reaction.settles_follow ?_ _
                (tires listener heard left session.memory holds)) _) _
              intro operation session ⟨fewer, less, holds⟩
              have settles := induction (by omega) operation holds
              exact ⟨settles.finished, fewer, less, settles.memory⟩

theorem finished_play (tires : behaviour.Tires within) {depth left : Nat}
    (enough : left < depth) {clients : List (Reaction Memory)}
    (keeps : ∀ client ∈ clients, ∀ memory, within left memory →
      client.Keeps (within left) (within left) memory)
    {session : Session Memory} (holds : within left session.memory) :
    ∀ run ∈ play behaviour depth clients session, run.outcome ≠ .exhausted := by
  induction clients generalizing session with
  | nil => exact fun _ member => (nomatch member)
  | cons client clients induction =>
      rw [List.forall_mem_cons] at keeps
      have settles := client.settles_follow
        (fun operation _ holds => settles_perform tires enough operation holds)
        (keeps.1 session.memory holds)
      rw [play, List.forall_mem_cons]
      exact ⟨settles.finished, induction keeps.2 settles.memory⟩

end Session

end Router
