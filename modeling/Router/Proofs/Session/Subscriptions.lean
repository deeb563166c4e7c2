import Router.Proofs.Session.Audience
import Mathlib.Data.List.Nodup

namespace Router

/-! ## Subscriptions of one listener

A listener may be subscribed more than once, and to unsubscribe it drops the oldest of
its subscriptions, whichever of them it was meant for. Listeners that compare equal are
not told apart in this. So the subscriptions of each listener form a queue: those left are
its last ones, as many as its subscriptions outnumber the times it was unsubscribed, where
an unsubscription of a listener without subscriptions is lost.

What listeners are told apart by is a key: what they are like, or the listeners themselves
as long as no two of them are alike. -/

namespace Event

/-- The operation that the event tells of, if it is one to subscribe or unsubscribe. -/
def dealing? : Event → Option Operation
  | .subscribed listener => some (.subscribe listener)
  | .unsubscribed listener _ => some (.unsubscribe listener)
  | _ => none

end Event

variable {Key : Type} [DecidableEq Key]

namespace Operation

def joining? : Operation → Option Listener
  | .subscribe listener => some listener
  | .unsubscribe _ | .move _ => none

def subject? : Operation → Option Listener
  | .subscribe listener | .unsubscribe listener => some listener
  | .move _ => none

/-- Counts the subscriptions that listeners of one key have left. -/
def tally (key : Listener → Key) (subject : Key) (standing : Nat) : Operation → Nat
  | .subscribe listener => if key listener = subject then standing + 1 else standing
  | .unsubscribe listener => if key listener = subject then standing - 1 else standing
  | .move _ => standing

def enact (subscribers : List Listener) : Operation → List Listener
  | .subscribe listener => subscribers ++ [listener]
  | .unsubscribe listener => subscribers.eraseP listener.equals
  | .move _ => subscribers

end Operation

namespace Session

/-- All operations to subscribe and unsubscribe, in order. -/
def dealings (events : List Event) : List Operation :=
  events.filterMap Event.dealing?

/-- The listeners of all subscriptions made, in order. -/
def enrolled (dealings : List Operation) : List Listener :=
  dealings.filterMap Operation.joining?

/-- All listeners that were subscribed or unsubscribed. -/
def involved (dealings : List Operation) : List Listener :=
  dealings.filterMap Operation.subject?

/-- How many subscriptions the listeners of one key have left. -/
def standing (key : Listener → Key) (dealings : List Operation) (subject : Key) : Nat :=
  dealings.foldl (Operation.tally key subject) 0

/-- The last so many listeners of each key, in their order. -/
def latest (key : Listener → Key) (count : Key → Nat) : List Listener → List Listener
  | [] => []
  | listener :: later =>
      if (later.map key).count (key listener) < count (key listener) then
        listener :: latest key count later
      else latest key count later

example : latest id (fun listener => if listener = "a" then 2 else 1)
    ["a", "b", "a", "b", "a"] = (["a", "b", "a"] : List Listener) := by decide

/-- Those of these listeners that compare equal have the same key, and no others. -/
def TellsApart (key : Listener → Key) (listeners : List Listener) : Prop :=
  ∀ listener ∈ listeners, ∀ other ∈ listeners, listener.equals other ↔ key listener = key other

instance (key : Listener → Key) (listeners : List Listener) :
    Decidable (TellsApart key listeners) :=
  inferInstanceAs (Decidable (∀ listener ∈ listeners, ∀ other ∈ listeners,
    listener.equals other ↔ key listener = key other))

theorem tellsApart_likeness (listeners : List Listener) :
    TellsApart Listener.likeness listeners :=
  fun _ _ _ _ => beq_iff_eq

section

variable {key : Listener → Key} {count next : Key → Nat} {subject : Key}

/-! ### The last listeners -/

theorem latest_sublist (key : Listener → Key) (count : Key → Nat) (listeners : List Listener) :
    (latest key count listeners).Sublist listeners := by
  induction listeners with
  | nil => exact .slnil
  | cons first later induction =>
      rw [latest]
      split
      · exact induction.cons_cons first
      · exact induction.cons first

theorem latest_congr {listeners : List Listener}
    (alike : ∀ subject, min (count subject) ((listeners.map key).count subject) =
      min (next subject) ((listeners.map key).count subject)) :
    latest key count listeners = latest key next listeners := by
  induction listeners with
  | nil => rfl
  | cons first later induction =>
      rw [List.map_cons] at alike
      have rest : latest key count later = latest key next later := by
        refine induction fun subject => ?_
        have here := alike subject
        have counts := List.count_le_count_cons (a := subject) (b := key first)
          (l := later.map key)
        omega
      have here := alike (key first)
      rw [List.count_cons_self] at here
      rw [latest, latest, rest]
      exact if_congr (by omega) rfl rfl

theorem latest_concat {listener : Listener} (more : next (key listener) = count (key listener) + 1)
    (others : ∀ other, other ≠ key listener → next other = count other)
    (listeners : List Listener) :
    latest key next (listeners ++ [listener]) = latest key count listeners ++ [listener] := by
  induction listeners with
  | nil => simp [latest, more]
  | cons first later induction =>
      have kept : ((later ++ [listener]).map key).count (key first) < next (key first) ↔
          (later.map key).count (key first) < count (key first) := by
        rw [List.map_append, List.map_singleton, List.count_append]
        by_cases same : key first = key listener
        · rw [same, more, List.count_singleton_self]
          exact Nat.add_lt_add_iff_right
        · have absent : [key listener].count (key first) = 0 :=
            List.count_eq_zero_of_not_mem (by simpa using same)
          rw [others _ same, absent, Nat.add_zero]
      rw [List.cons_append, latest, latest, induction, if_congr kept rfl rfl]
      split <;> rfl

theorem latest_eraseP (subject : Key) (fewer : next subject = count subject - 1)
    (others : ∀ other, other ≠ subject → next other = count other)
    {drops : Listener → Bool} {listeners : List Listener}
    (tells : ∀ listener ∈ listeners, drops listener ↔ key listener = subject)
    (enough : count subject ≤ (listeners.map key).count subject) :
    (latest key count listeners).eraseP drops = latest key next listeners := by
  induction listeners with
  | nil => rfl
  | cons first later induction =>
      rw [List.forall_mem_cons] at tells
      rw [List.map_cons] at enough
      by_cases same : key first = subject
      · subst same
        rw [List.count_cons_self] at enough
        by_cases oldest : (later.map key).count (key first) < count (key first)
        · have all : latest key count later = latest key next later := by
            refine latest_congr fun other => ?_
            by_cases same : other = key first
            · rw [same]
              omega
            · rw [others other same]
          rw [latest, latest, if_pos oldest, if_neg (by omega),
            List.eraseP_cons_of_pos (tells.1.mpr rfl), all]
        · rw [latest, latest, if_neg oldest, if_neg (by omega)]
          exact induction tells.2 (by omega)
      · rw [List.count_cons_of_ne same] at enough
        simp only [latest, others _ same]
        rw [← induction tells.2 enough]
        split
        · exact List.eraseP_cons_of_neg (mt tells.1.mp same)
        · rfl

theorem count_latest (count : Key → Nat) (subject : Key) (listeners : List Listener) :
    ((latest key count listeners).map key).count subject =
      min (count subject) ((listeners.map key).count subject) := by
  induction listeners with
  | nil => exact (Nat.min_zero _).symm
  | cons first later induction =>
      rw [latest, List.map_cons]
      by_cases same : key first = subject
      · subst same
        split
        · rw [List.map_cons, List.count_cons_self, List.count_cons_self, induction]
          omega
        · rw [List.count_cons_self, induction]
          omega
      · rw [List.count_cons_of_ne same, ← induction]
        split
        · exact List.count_cons_of_ne same
        · rfl

/-! ### The subscriptions left -/

theorem enrolled_append (dealings later : List Operation) :
    enrolled (dealings ++ later) = enrolled dealings ++ enrolled later :=
  List.filterMap_append

theorem standing_concat (key : Listener → Key) (dealings : List Operation)
    (operation : Operation) (subject : Key) :
    standing key (dealings ++ [operation]) subject =
      operation.tally key subject (standing key dealings subject) :=
  List.foldl_concat ..

theorem enrolled_subset_involved (dealings : List Operation) :
    enrolled dealings ⊆ involved dealings := by
  intro listener member
  rcases List.mem_filterMap.mp member with ⟨operation, given, joins⟩
  refine List.mem_filterMap.mpr ⟨operation, given, ?_⟩
  cases operation with
  | subscribe => exact joins
  | unsubscribe | move => cases joins

theorem standing_le_count_enrolled (key : Listener → Key) (dealings : List Operation)
    (subject : Key) :
    standing key dealings subject ≤ ((enrolled dealings).map key).count subject := by
  induction dealings using List.reverseRecOn with
  | nil => exact Nat.le_refl 0
  | append_singleton dealings operation induction =>
      rw [standing_concat, enrolled_append, List.map_append, List.count_append]
      cases operation with
      | subscribe listener =>
          change (if key listener = subject then _ else _) ≤ _ + [key listener].count subject
          split
          · next same =>
              rw [same, List.count_singleton_self]
              exact Nat.add_le_add_right induction 1
          · exact Nat.le_add_right_of_le induction
      | unsubscribe listener =>
          change (if key listener = subject then _ else _) ≤ _
          split
          · exact Nat.le_add_right_of_le (Nat.le_trans (Nat.sub_le ..) induction)
          · exact Nat.le_add_right_of_le induction
      | move => exact Nat.le_add_right_of_le induction

theorem foldl_enact_eq_latest {dealings : List Operation}
    (tells : TellsApart key (involved dealings)) :
    dealings.foldl Operation.enact [] = latest key (standing key dealings) (enrolled dealings) := by
  induction dealings using List.reverseRecOn with
  | nil => rfl
  | append_singleton dealings operation induction =>
      have earlier : involved dealings ⊆ involved (dealings ++ [operation]) := by
        rw [involved, involved, List.filterMap_append]
        exact List.subset_append_left ..
      have counted : standing key (dealings ++ [operation]) =
          fun subject => operation.tally key subject (standing key dealings subject) :=
        funext (standing_concat key dealings operation)
      rw [List.foldl_concat, enrolled_append, counted,
        induction fun listener given other among =>
          tells listener (earlier given) other (earlier among)]
      cases operation with
      | subscribe listener =>
          refine Eq.symm (latest_concat ?_ ?_ (enrolled dealings))
          · exact if_pos rfl
          · exact fun _ other => if_neg (Ne.symm other)
      | unsubscribe listener =>
          have given : listener ∈ involved (dealings ++ [.unsubscribe listener]) :=
            List.mem_filterMap.mpr ⟨_, List.mem_append_right _ (List.mem_singleton_self _), rfl⟩
          rw [show enrolled [.unsubscribe listener] = [] from rfl, List.append_nil]
          refine latest_eraseP (key listener) ?_ ?_ ?_ ?_
          · exact if_pos rfl
          · exact fun _ other => if_neg (Ne.symm other)
          · intro other member
            have among := earlier (enrolled_subset_involved dealings member)
            rw [tells listener given other among]
            exact eq_comm
          · exact standing_le_count_enrolled key dealings _
      | move => exact congrArg (latest key _) (List.append_nil _).symm

theorem tally_of_not_joining {dealings : List Operation}
    (absent : subject ∉ (enrolled dealings).map key) :
    dealings.foldl (Operation.tally key subject) 0 = 0 := by
  induction dealings with
  | nil => rfl
  | cons operation dealings induction =>
      rw [← List.singleton_append, enrolled_append, List.map_append, List.mem_append,
        not_or] at absent
      have none : operation.tally key subject 0 = 0 := by
        cases operation with
        | subscribe listener =>
            refine if_neg fun same => absent.1 ?_
            rw [← same]
            exact List.mem_singleton_self (key listener)
        | unsubscribe => exact ite_self 0
        | move => rfl
      rw [List.foldl_cons, none]
      exact induction absent.2

/-- A listener that was subscribed once and has been unsubscribed since has no
subscription left. -/
theorem standing_of_unsubscribed {before during : List Operation} {listener : Listener}
    (joined : listener ∈ enrolled before)
    (once : ((enrolled (before ++ .unsubscribe listener :: during)).map key).Nodup) :
    standing key (before ++ .unsubscribe listener :: during) (key listener) = 0 := by
  have split : enrolled (before ++ .unsubscribe listener :: during) =
      enrolled before ++ enrolled during := enrolled_append ..
  rw [split, List.map_append, List.nodup_append] at once
  have single := List.nodup_iff_count_le_one.mp once.1 (key listener)
  have left := standing_le_count_enrolled key before (key listener)
  have gone : Operation.tally key (key listener) (standing key before (key listener))
      (.unsubscribe listener) = 0 := by
    change (if key listener = key listener then _ else _) = 0
    rw [if_pos rfl]
    omega
  have absent : key listener ∉ (enrolled during).map key :=
    fun member => once.2.2 _ (List.mem_map_of_mem joined) _ member rfl
  rw [standing, List.foldl_append, List.foldl_cons]
  change List.foldl _ (Operation.tally key _ (standing key before _) _) during = 0
  rw [gone]
  exact tally_of_not_joining absent

end

theorem filter_eraseP (drops : Listener → Bool) (listeners : List Listener) :
    (listeners.eraseP drops).filter (!drops ·) = listeners.filter (!drops ·) := by
  rcases List.exists_or_eq_self_of_eraseP drops listeners with
    same | ⟨dropped, before, after, -, drop, split, erased⟩
  · rw [same]
  · rw [erased, split]
    simp [drop]

omit [DecidableEq Key] in
/-- Where no two listeners have the same key, there is none to drop another time. -/
theorem eraseP_eraseP_of_nodup {key : Listener → Key} {subject : Key}
    {drops : Listener → Bool} {listeners : List Listener}
    (tells : ∀ listener ∈ listeners, drops listener ↔ key listener = subject)
    (once : (listeners.map key).Nodup) :
    (listeners.eraseP drops).eraseP drops = listeners.eraseP drops := by
  induction listeners with
  | nil => rfl
  | cons first later induction =>
      rw [List.forall_mem_cons] at tells
      rw [List.map_cons, List.nodup_cons] at once
      by_cases drop : drops first
      · rw [List.eraseP_cons_of_pos drop]
        refine List.eraseP_of_forall_not fun other member dropToo => once.1 ?_
        rw [tells.1.mp drop, ← (tells.2 other member).mp dropToo]
        exact List.mem_map_of_mem member
      · rw [List.eraseP_cons_of_neg drop, List.eraseP_cons_of_neg drop,
          induction tells.2 once.2]

variable {Memory : Type}

theorem subscribersAfter_eq_foldl (events : List Event) :
    subscribersAfter events = (dealings events).foldl Operation.enact [] := by
  rw [dealings, List.foldl_filterMap, subscribersAfter]
  congr 1
  funext subscribers event
  cases event <;> rfl

theorem subscribers_eq_subscribersAfter {behaviour : Behaviour Memory} {depth : Nat}
    {clients : List (Reaction Memory)} {initial : String} {config : Config}
    {memory : Memory} {earlier later : List (Run Memory)} {run : Run Memory}
    (runs : play behaviour depth clients (new initial config memory) =
      earlier ++ run :: later) :
    run.session.subscribers = subscribersAfter (chronicle (earlier ++ [run])) := by
  rcases course_play behaviour depth (shows_new initial config memory)
    (open_new initial config) runs with ⟨last, course, shows, -⟩
  rw [← shows.subscribers]
  exact course.subscribers

theorem exists_last_turn (behaviour : Behaviour Memory) (depth : Nat)
    {clients : List (Reaction Memory)} (some : clients ≠ []) (session : Session Memory) :
    ∃ earlier run, play behaviour depth clients session = earlier ++ [run] := by
  cases clients with
  | nil => exact absurd rfl some
  | cons => exact ⟨_, _, (List.dropLast_append_getLast (List.cons_ne_nil _ _)).symm⟩

end Session

/-! ### Handles -/

namespace Script

/-- Commands that subscribe or unsubscribe. -/
def Command.isDealing : Command → Bool
  | .subscribe _ _ _ _ _ => true
  | .unsubscribe _ => true
  | _ => false

/-- The listener that was subscribed last under a handle. -/
def holder? (handle : String) (commands : List Command) : Option Listener :=
  commands.foldl (fun holder command => match command with
    | .subscribe listener kept _ _ _ => if kept = handle then some listener else holder
    | _ => holder) none

theorem holder?_concat (handle : String) (commands : List Command) (command : Command) :
    holder? handle (commands ++ [command]) =
      match command with
      | .subscribe listener kept _ _ _ =>
          if kept = handle then some listener else holder? handle commands
      | _ => holder? handle commands :=
  List.foldl_concat ..

/-- What a command to subscribe or unsubscribe does after others. A handle from which
nobody was subscribed is of no effect. -/
def dealing? (earlier : List Command) : Command → Option Operation
  | .subscribe listener _ _ _ _ => some (.subscribe listener)
  | .unsubscribe handle => (holder? handle earlier).map .unsubscribe
  | _ => none

def dealings (earlier : List Command) : List Command → List Operation
  | [] => []
  | command :: later =>
      (dealing? earlier command).toList ++ dealings (earlier ++ [command]) later

/-- Handles stay with the listeners they were given for, also when these have been
unsubscribed. -/
theorem follow_dealing (depth : Nat) {command : Command} (dealing : command.isDealing)
    {session : Session Memory} {earlier : List Command}
    (held : ∀ handle, session.memory.handles.find? handle = holder? handle earlier) :
    let run := (react .finish command).follow (Session.perform behaviour (depth + 1)) session
    Session.dealings run.events = (dealing? earlier command).toList ∧
    ∀ handle, run.session.memory.handles.find? handle =
      holder? handle (earlier ++ [command]) := by
  cases command with
  | move | isActive | describe => cases dealing
  | subscribe listener handle times commands complaint =>
      refine ⟨rfl, fun other => ?_⟩
      rw [holder?_concat]
      change (session.memory.handles.insert handle listener).find? other =
        if handle = other then _ else _
      split
      · next same => rw [same, Bindings.find?_insert_self]
      · next different => rw [Bindings.find?_insert_of_ne _ (Ne.symm different), held]
  | unsubscribe handle =>
      rw [react, Reaction.follow, held handle, dealing?]
      cases holder? handle earlier with
      | none | some =>
          refine ⟨rfl, fun other => ?_⟩
          rw [holder?_concat]
          exact held other

theorem dealings_chronicle (depth : Nat) {commands : List Command}
    (dealing : ∀ command ∈ commands, command.isDealing) {session : Session Memory}
    {earlier : List Command}
    (held : ∀ handle, session.memory.handles.find? handle = holder? handle earlier) :
    Session.dealings (Session.chronicle (Session.play behaviour (depth + 1)
      (commands.map (react .finish)) session)) = dealings earlier commands := by
  induction commands generalizing session earlier with
  | nil => rfl
  | cons command later induction =>
      rw [List.forall_mem_cons] at dealing
      have first := follow_dealing depth dealing.1 held
      rw [List.map_cons, Session.play, Session.chronicle, List.flatMap_cons, Session.dealings,
        List.filterMap_append, dealings]
      exact congrArg₂ (· ++ ·) first.1 (induction dealing.2 first.2)

end Script

namespace Session

/-- A listener is subscribed a second time, and the handle of this subscription is used. -/
def rejoining : List Script.Command :=
  [.subscribe "diary" "first" 0 [] none, .subscribe "guard" "second" 0 [] none,
    .subscribe "diary" "third" 0 [] none, .unsubscribe "third"]

/-- A copy of a listener is subscribed, and its handle is used. -/
def copying : List Script.Command :=
  [.subscribe "diary" "first" 0 [] none, .subscribe "guard" "second" 0 [] none,
    .subscribe { name := "copy", likeness := "diary" } "third" 0 [] none,
    .unsubscribe "third"]

/-- Two listeners are subscribed, and the first one is unsubscribed. -/
def parting : List Script.Command :=
  [.subscribe "diary" "first" 0 [] none, .subscribe "guard" "second" 0 [] none,
    .unsubscribe "first"]

end Session

end Router
