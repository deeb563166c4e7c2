import Mathlib.Tactic.Tauto
import Router.Glob.Compile

namespace Router.Glob

/-! ## Declarations

A glob compiles exactly if the names of its parameters can be declared one after the
other: each is a letter followed by letters and digits, and none comes twice. -/

/-- A letter followed by letters and digits, all of them of ASCII. -/
def IsName (name : String) : Prop :=
  name.toList.head?.any Char.isAlpha ∧ name.toList.tail.all Char.isAlphanum

instance (name : String) : Decidable (IsName name) :=
  inferInstanceAs (Decidable (_ ∧ _))

/-- Names that can be declared one after the other. -/
def Declarable (names : List String) : Prop :=
  (∀ name ∈ names, IsName name) ∧ names.Nodup

instance (names : List String) : Decidable (Declarable names) :=
  inferInstanceAs (Decidable (_ ∧ _))

theorem declarable_cons {name : String} {rest : List String} :
    Declarable (name :: rest) ↔ IsName name ∧ name ∉ rest ∧ Declarable rest := by
  rw [Declarable, Declarable, List.forall_mem_cons, List.nodup_cons]
  tauto

theorem declarable_append {front back : List String} :
    Declarable (front ++ back) ↔
      Declarable front ∧ Declarable back ∧ ∀ name ∈ front, name ∉ back := by
  induction front with
  | nil => simp [Declarable]
  | cons name front induction =>
      rw [List.cons_append, declarable_cons, declarable_cons, induction, List.mem_append,
        List.forall_mem_cons, not_or]
      tauto

theorem misplaced?_eq_none_iff {characters : List Char} :
    misplaced? characters = none ↔
      characters.head?.all Char.isAlpha ∧ characters.tail.all Char.isAlphanum := by
  cases characters with
  | nil => simp [misplaced?]
  | cons first rest =>
      rw [misplaced?]
      split
      · next letter => simp [letter]
      · next other => simp [other]

theorem isName_iff_misplaced? {name : String} (filled : name ≠ "") :
    IsName name ↔ misplaced? name.toList = none := by
  rw [misplaced?_eq_none_iff, IsName]
  cases characters : name.toList with
  | nil => exact absurd (String.toList_eq_nil_iff.mp characters) filled
  | cons first rest => rfl

theorem culprit?_eq_none_iff {seen : List String} {name : String} :
    culprit? seen name = none ↔ IsName name ∧ name ∉ seen := by
  rw [culprit?]
  split
  · next empty => simp [IsName, empty]
  · next filled =>
      rw [isName_iff_misplaced? filled]
      cases misplaced? name.toList <;> simp

theorem fault?_eq_none_iff {seen names : List String} :
    fault? seen names = none ↔ Declarable names ∧ ∀ name ∈ names, name ∉ seen := by
  induction names generalizing seen with
  | nil => simp [fault?, Declarable]
  | cons name rest induction =>
      rw [fault?]
      cases culprit : culprit? seen name with
      | none =>
          rcases culprit?_eq_none_iff.mp culprit with ⟨named, fresh⟩
          rw [induction, declarable_cons, List.forall_mem_cons]
          constructor
          · intro split
            rcases split with ⟨declarable, unseen⟩
            refine ⟨⟨named, fun repeated => ?_, declarable⟩, fresh, fun other member => ?_⟩
            · exact unseen name repeated List.mem_cons_self
            · exact fun before => unseen other member (List.mem_cons_of_mem name before)
          · intro declared
            rcases declared with ⟨⟨-, once, declarable⟩, -, unseen⟩
            refine ⟨declarable, fun other member before => ?_⟩
            rcases List.mem_cons.mp before with equal | before
            · exact once (equal ▸ member)
            · exact unseen other member before
      | some blamed =>
          have refused : ¬(IsName name ∧ name ∉ seen) := by
            rw [← culprit?_eq_none_iff, culprit]
            simp
          simp only [reduceCtorEq, false_iff, declarable_cons, List.forall_mem_cons]
          exact fun declared => refused ⟨declared.1.1, declared.2.1⟩

theorem fault?_nil_eq_none_iff {names : List String} :
    fault? [] names = none ↔ Declarable names := by
  simp [fault?_eq_none_iff]

/-! ### Blame -/

theorem mem_of_fault? {seen names : List String} {blamed : String × String}
    (fault : fault? seen names = some blamed) : blamed.1 ∈ names := by
  induction names generalizing seen with
  | nil => cases fault
  | cons name rest induction =>
      rw [fault?] at fault
      split at fault
      · cases fault
        exact List.mem_cons_self
      · exact List.mem_cons_of_mem name (induction fault)

theorem fault?_append (seen front back : List String) :
    fault? seen (front ++ back) =
      (fault? seen front).or (fault? (front.reverse ++ seen) back) := by
  induction front generalizing seen with
  | nil => rfl
  | cons name front induction =>
      rw [List.cons_append, fault?, fault?]
      split
      · rfl
      · rw [induction, List.reverse_cons, List.append_assoc, List.singleton_append]

/-- Names that could be declared on their own are blamed only for names seen before. -/
theorem Declarable.mem_seen_of_fault? {seen names : List String}
    (declarable : Declarable names) {blamed : String × String}
    (fault : fault? seen names = some blamed) : blamed.1 ∈ seen := by
  induction names generalizing seen with
  | nil => cases fault
  | cons name rest induction =>
      rcases declarable_cons.mp declarable with ⟨named, once, declarable⟩
      rw [fault?] at fault
      cases culprit : culprit? seen name with
      | some character =>
          rw [culprit] at fault
          cases fault
          refine Decidable.byContradiction fun fresh => ?_
          rw [culprit?_eq_none_iff.mpr ⟨named, fresh⟩] at culprit
          cases culprit
      | none =>
          rw [culprit] at fault
          have later := mem_of_fault? fault
          rcases List.mem_cons.mp (induction declarable fault) with same | seenBefore
          · exact absurd (same ▸ later) once
          · exact seenBefore

/-- If names that could be declared on their own follow others, it is one of the others
that is blamed. -/
theorem Declarable.mem_of_fault?_append {front back : List String}
    (declarable : Declarable back) {blamed : String × String}
    (fault : fault? [] (front ++ back) = some blamed) : blamed.1 ∈ front := by
  rw [fault?_append, List.append_nil] at fault
  rcases Option.or_eq_some_iff.mp fault with fault | ⟨-, fault⟩
  · exact mem_of_fault? fault
  · exact List.mem_reverse.mp (declarable.mem_seen_of_fault? fault)

/-! ### Compiling -/

theorem declaredNames_append (front back : List Segment) :
    declaredNames (front ++ back) = declaredNames front ++ declaredNames back :=
  List.filterMap_append

theorem declaredNames_literals (texts : List String) :
    declaredNames (texts.map .literal) = [] := by
  induction texts with
  | nil => rfl
  | cons text texts induction => exact induction

@[simp] theorem source_read (source : String) : (read source).source = source := rfl

theorem compile_eq_ok_iff {source : String} {glob : Glob} :
    compile source = .ok glob ↔
      glob = read source ∧ Declarable (declaredNames glob.segments) := by
  rw [compile]
  cases fault : fault? [] (declaredNames (read source).segments) with
  | none =>
      simp only [Except.ok.injEq]
      constructor
      · intro same
        subst same
        exact ⟨rfl, fault?_nil_eq_none_iff.mp fault⟩
      · exact fun compiled => compiled.1.symm
  | some blamed =>
      simp only [reduceCtorEq, false_iff]
      intro compiled
      rcases compiled with ⟨rfl, declarable⟩
      rw [fault?_nil_eq_none_iff.mpr declarable] at fault
      cases fault

theorem compile_eq_error_iff {source : String} {error : GlobError} :
    compile source = .error error ↔
      fault? [] (declaredNames (read source).segments) =
        some (error.parameter, error.culprit) ∧ error.glob = source := by
  rw [compile]
  cases fault : fault? [] (declaredNames (read source).segments) with
  | none => simp
  | some blamed =>
      simp only [Except.error.injEq, Option.some_inj]
      constructor
      · intro same
        subst same
        exact ⟨rfl, rfl⟩
      · intro blamed
        rcases blamed with ⟨rfl, rfl⟩
        rfl

theorem source_of_compile {source : String} {glob : Glob}
    (compiles : compile source = .ok glob) : glob.source = source := by
  rw [(compile_eq_ok_iff.mp compiles).1, source_read]

theorem compiles_iff {source : String} :
    (∃ glob, compile source = .ok glob) ↔
      Declarable (declaredNames (read source).segments) := by
  constructor
  · intro some_glob
    rcases some_glob with ⟨glob, compiles⟩
    rcases compile_eq_ok_iff.mp compiles with ⟨rfl, declarable⟩
    exact declarable
  · exact fun declarable => ⟨_, compile_eq_ok_iff.mpr ⟨rfl, declarable⟩⟩

end Router.Glob
