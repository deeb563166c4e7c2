namespace Router

/-! ## Bindings

A finite map that remembers the order in which its keys first arrived. Writing a
key that is already bound replaces its value and leaves its place alone. -/

structure Bindings (Key Value : Type) where
  /-- The bound keys, each with its value, in order of first arrival. -/
  entries : List (Key × Value) := []
  deriving DecidableEq, Repr

namespace Bindings

variable {Key Value : Type} [DecidableEq Key]

def empty : Bindings Key Value := {}

def insertEntry (key : Key) (value : Value) : List (Key × Value) → List (Key × Value)
  | [] => [(key, value)]
  | entry :: rest =>
      if entry.1 = key then (key, value) :: rest
      else entry :: insertEntry key value rest

def insert (bindings : Bindings Key Value) (key : Key) (value : Value) :
    Bindings Key Value where
  entries := insertEntry key value bindings.entries

def ofList (pairs : List (Key × Value)) : Bindings Key Value :=
  pairs.foldl (fun bindings pair => bindings.insert pair.1 pair.2) empty

def toList (bindings : Bindings Key Value) : List (Key × Value) :=
  bindings.entries

def keys (bindings : Bindings Key Value) : List Key :=
  bindings.entries.map (·.1)

def size (bindings : Bindings Key Value) : Nat :=
  bindings.entries.length

def find? (bindings : Bindings Key Value) (key : Key) : Option Value :=
  bindings.entries.lookup key

def contains (bindings : Bindings Key Value) (key : Key) : Bool :=
  (bindings.find? key).isSome

/-- Whether two maps bind the same keys to the same values, in whatever order. -/
def agrees [DecidableEq Value] (left right : Bindings Key Value) : Bool :=
  left.size == right.size &&
    left.entries.all fun entry => right.find? entry.1 == some entry.2

/-- A repeated key keeps its first place and takes its last value. -/
example : (ofList [("b", 1), ("a", 2), ("b", 3)]).toList = [("b", 3), ("a", 2)] := by
  decide

/-! Looking a key up after a write. -/

theorem lookup_insertEntry_self (key : Key) (value : Value)
    (entries : List (Key × Value)) :
    (insertEntry key value entries).lookup key = some value := by
  induction entries with
  | nil => simp [insertEntry]
  | cons entry rest induction =>
      rcases entry with ⟨bound, former⟩
      by_cases same : bound = key
      · simp [insertEntry, same]
      · have different : (key == bound) = false := by
          simpa using fun equal => same equal.symm
        simp [insertEntry, same, List.lookup_cons, different, induction]

theorem lookup_insertEntry_of_ne {key other : Key} (different : other ≠ key)
    (value : Value) (entries : List (Key × Value)) :
    (insertEntry key value entries).lookup other = entries.lookup other := by
  have notKey : (other == key) = false := by simpa using different
  induction entries with
  | nil => simp [insertEntry, List.lookup_cons, notKey]
  | cons entry rest induction =>
      rcases entry with ⟨bound, former⟩
      by_cases same : bound = key
      · subst same
        simp [insertEntry, List.lookup_cons, notKey]
      · simp only [insertEntry, same, if_false, List.lookup_cons]
        rw [induction]

@[simp] theorem find?_insert_self (bindings : Bindings Key Value) (key : Key)
    (value : Value) : (bindings.insert key value).find? key = some value :=
  lookup_insertEntry_self key value bindings.entries

theorem find?_insert_of_ne (bindings : Bindings Key Value) {key other : Key}
    (different : other ≠ key) (value : Value) :
    (bindings.insert key value).find? other = bindings.find? other :=
  lookup_insertEntry_of_ne different value bindings.entries

theorem find?_eq_none_iff {bindings : Bindings Key Value} {key : Key} :
    bindings.find? key = none ↔ key ∉ bindings.keys := by
  rw [find?, List.lookup_eq_none_iff, keys, List.mem_map]
  constructor
  · rintro absent ⟨entry, member, rfl⟩
    simpa using absent entry member
  · intro absent entry member
    simpa using fun same => absent ⟨entry, member, same.symm⟩

theorem contains_iff {bindings : Bindings Key Value} {key : Key} :
    bindings.contains key ↔ key ∈ bindings.keys := by
  rw [contains, Option.isSome_iff_ne_none, ne_eq, find?_eq_none_iff, Decidable.not_not]

theorem mem_insertEntry {key : Key} {value : Value} {entries : List (Key × Value)}
    {entry : Key × Value} (member : entry ∈ insertEntry key value entries) :
    entry = (key, value) ∨ entry ∈ entries := by
  induction entries with
  | nil => exact .inl (List.mem_singleton.mp member)
  | cons head rest induction =>
      rw [insertEntry] at member
      split at member
      · exact (List.mem_cons.mp member).imp_right (List.mem_cons_of_mem head)
      · rcases List.mem_cons.mp member with rfl | member
        · exact .inr List.mem_cons_self
        · exact (induction member).imp_right (List.mem_cons_of_mem head)

/-- Writing a value that is already bound changes nothing. -/
theorem insertEntry_of_lookup {key : Key} {value : Value} {entries : List (Key × Value)}
    (found : entries.lookup key = some value) : insertEntry key value entries = entries := by
  induction entries with
  | nil => cases found
  | cons entry rest induction =>
      rcases entry with ⟨bound, former⟩
      by_cases same : bound = key
      · subst same
        rw [List.lookup_cons_self, Option.some_inj] at found
        simp [insertEntry, found]
      · have different : (key == bound) = false := by
          simpa using fun equal => same equal.symm
        rw [List.lookup_cons, different] at found
        simp [insertEntry, same, induction found]

theorem insert_of_find? {bindings : Bindings Key Value} {key : Key} {value : Value}
    (found : bindings.find? key = some value) : bindings.insert key value = bindings :=
  congrArg Bindings.mk (insertEntry_of_lookup found)

/-! Writing distinct keys keeps every pair and their order. -/

theorem insertEntry_of_notMem {key : Key} {entries : List (Key × Value)}
    (fresh : key ∉ entries.map (·.1)) (value : Value) :
    insertEntry key value entries = entries ++ [(key, value)] := by
  induction entries with
  | nil => rfl
  | cons entry rest induction =>
      rw [List.map_cons, List.mem_cons, not_or] at fresh
      rw [insertEntry, if_neg fun same => fresh.1 same.symm, induction fresh.2]
      rfl

theorem entries_foldl_insert {pairs : List (Key × Value)} (bindings : Bindings Key Value)
    (distinct : ((bindings.entries ++ pairs).map (·.1)).Nodup) :
    (pairs.foldl (fun bindings pair => bindings.insert pair.1 pair.2) bindings).entries =
      bindings.entries ++ pairs := by
  induction pairs generalizing bindings with
  | nil => simp
  | cons pair rest induction =>
      have fresh : pair.1 ∉ bindings.entries.map (·.1) := by
        intro bound
        rw [List.map_append, List.nodup_append] at distinct
        exact distinct.2.2 pair.1 bound pair.1 (by simp) rfl
      have inserted : (bindings.insert pair.1 pair.2).entries = bindings.entries ++ [pair] :=
        insertEntry_of_notMem fresh pair.2
      have regrouped : bindings.entries ++ pair :: rest =
          (bindings.insert pair.1 pair.2).entries ++ rest := by
        rw [inserted, List.append_assoc]
        rfl
      rw [regrouped] at distinct ⊢
      exact induction _ distinct

theorem toList_ofList {pairs : List (Key × Value)}
    (distinct : (pairs.map (·.1)).Nodup) : (ofList pairs).toList = pairs :=
  entries_foldl_insert empty distinct

/-! Maps that agree hold the same entries. -/

theorem mem_of_find? {bindings : Bindings Key Value} {key : Key} {value : Value}
    (found : bindings.find? key = some value) : (key, value) ∈ bindings.entries := by
  rcases List.lookup_eq_some_iff.mp found with ⟨before, after, split, -⟩
  simp [split]

theorem find?_of_mem {bindings : Bindings Key Value} {key : Key} {value : Value}
    (distinct : (bindings.entries.map (·.1)).Nodup)
    (member : (key, value) ∈ bindings.entries) : bindings.find? key = some value := by
  rcases List.append_of_mem member with ⟨before, after, split⟩
  rw [split, List.map_append, List.nodup_append] at distinct
  refine List.lookup_eq_some_iff.mpr ⟨before, after, split, fun entry earlier => ?_⟩
  have different := distinct.2.2 entry.1 (List.mem_map_of_mem earlier) key (by simp)
  simpa using fun same => different same.symm

theorem agrees_self [DecidableEq Value] {bindings : Bindings Key Value}
    (distinct : (bindings.entries.map (·.1)).Nodup) : bindings.agrees bindings := by
  simp only [agrees, beq_self_eq_true, Bool.true_and, List.all_eq_true, beq_iff_eq]
  exact fun entry member => find?_of_mem distinct member

theorem mem_of_agrees [DecidableEq Value] {left right : Bindings Key Value}
    (agree : left.agrees right) {entry : Key × Value} (member : entry ∈ left.entries) :
    entry ∈ right.entries := by
  simp only [agrees, Bool.and_eq_true, List.all_eq_true, beq_iff_eq] at agree
  exact mem_of_find? (agree.2 entry member)

end Bindings

end Router
