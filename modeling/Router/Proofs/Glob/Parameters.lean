import Router.Glob.Match
import Mathlib.Data.Finset.Dedup
import Mathlib.Data.List.Induction
import Mathlib.Data.List.Nodup

namespace Router

/-! ## Parameters as a map

Pairs are written one after another, so the keys stand in the order in which they
first arrived and hold the values that arrived last. Only the values count when two maps
are compared: those with the same entries, in whatever order, are equal, and no others. -/

namespace Bindings

variable {Key Value : Type} [DecidableEq Key]

/-! ### Building a map -/

theorem ofList_concat (pairs : List (Key × Value)) (pair : Key × Value) :
    ofList (pairs ++ [pair]) = (ofList pairs).insert pair.1 pair.2 :=
  List.foldl_concat ..

theorem keys_insert_of_mem {bindings : Bindings Key Value} {key : Key}
    (bound : key ∈ bindings.keys) (value : Value) :
    (bindings.insert key value).keys = bindings.keys := by
  rcases bindings with ⟨entries⟩
  change key ∈ entries.map _ at bound
  change (insertEntry key value entries).map _ = entries.map _
  induction entries with
  | nil => cases bound
  | cons entry rest induction =>
      rw [insertEntry]
      split
      · next same => rw [List.map_cons, List.map_cons, same]
      · next different =>
          rw [List.map_cons, List.mem_cons] at bound
          rw [List.map_cons, List.map_cons, induction (bound.resolve_left (Ne.symm different))]

theorem keys_insert_of_notMem {bindings : Bindings Key Value} {key : Key}
    (fresh : key ∉ bindings.keys) (value : Value) :
    (bindings.insert key value).keys = bindings.keys ++ [key] := by
  change (insertEntry key value bindings.entries).map _ = _
  rw [insertEntry_of_notMem fresh, List.map_append]
  rfl

theorem keys_ofList (pairs : List (Key × Value)) :
    (ofList pairs).keys = (pairs.map (·.1)).eraseDups := by
  induction pairs using List.reverseRecOn with
  | nil => rfl
  | append_singleton pairs pair induction =>
      rw [ofList_concat, List.map_append, List.map_singleton, List.eraseDups_append]
      by_cases bound : pair.1 ∈ pairs.map (·.1)
      · have known : [pair.1].removeAll (pairs.map (·.1)) = [] := by
          simp [List.removeAll, bound]
        rw [known, keys_insert_of_mem (by rwa [induction, List.mem_eraseDups]), induction]
        exact (List.append_nil _).symm
      · have fresh : [pair.1].removeAll (pairs.map (·.1)) = [pair.1] := by
          simp [List.removeAll, bound]
        rw [fresh, keys_insert_of_notMem (by rwa [induction, List.mem_eraseDups]), induction]
        rfl

theorem nodup_keys_ofList (pairs : List (Key × Value)) : (ofList pairs).keys.Nodup := by
  induction pairs using List.reverseRecOn with
  | nil => exact List.nodup_nil
  | append_singleton pairs pair induction =>
      rw [ofList_concat]
      by_cases bound : pair.1 ∈ (ofList pairs).keys
      · rwa [keys_insert_of_mem bound]
      · rw [keys_insert_of_notMem bound, ← List.concat_eq_append]
        exact induction.concat bound

theorem find?_ofList (pairs : List (Key × Value)) (key : Key) :
    (ofList pairs).find? key = pairs.reverse.lookup key := by
  induction pairs using List.reverseRecOn with
  | nil => rfl
  | append_singleton pairs pair induction =>
      rw [ofList_concat, List.reverse_concat, List.lookup_cons]
      by_cases same : key = pair.1
      · rw [same, find?_insert_self, beq_self_eq_true]
      · rw [find?_insert_of_ne _ same, induction, beq_false_of_ne same]

theorem mem_keys_ofList {pairs : List (Key × Value)} {key : Key} :
    key ∈ (ofList pairs).keys ↔ key ∈ pairs.map (·.1) := by
  rw [keys_ofList, List.mem_eraseDups]

/-! ### Entries and lookup -/

omit [DecidableEq Key] in
theorem nodup_toList {bindings : Bindings Key Value} (distinct : bindings.keys.Nodup) :
    bindings.toList.Nodup :=
  List.Nodup.of_map _ distinct

section

variable {bindings : Bindings Key Value} (distinct : bindings.keys.Nodup)

include distinct

theorem mem_toList_iff {key : Key} {value : Value} :
    (key, value) ∈ bindings.toList ↔ bindings.find? key = some value :=
  ⟨find?_of_mem distinct, mem_of_find?⟩

theorem toList_eq_filterMap_keys :
    bindings.toList = bindings.keys.filterMap fun key => (bindings.find? key).map (key, ·) := by
  have looked : ∀ entry ∈ bindings.entries,
      (bindings.find? entry.1).map (entry.1, ·) = some entry := by
    intro entry member
    rw [find?_of_mem distinct member]
    rfl
  rw [keys, List.filterMap_map]
  exact (List.filterMap_some.symm.trans (List.filterMap_congr looked).symm)

end

/-! ### Equal maps -/

section

variable [DecidableEq Value] {left right : Bindings Key Value}
  (leftDistinct : left.keys.Nodup) (rightDistinct : right.keys.Nodup)

include leftDistinct

theorem agrees_iff_perm : left.agrees right ↔ left.toList.Perm right.toList := by
  constructor
  · intro agree
    have within : left.toList ⊆ right.toList := fun _ => mem_of_agrees agree
    have size : left.size = right.size := by
      rw [agrees, Bool.and_eq_true, beq_iff_eq] at agree
      exact agree.1
    exact (List.subperm_of_subset (nodup_toList leftDistinct) within).perm_of_length_le
      (Nat.le_of_eq size.symm)
  · intro reordered
    have keys : left.keys.Perm right.keys := reordered.map Prod.fst
    have rightDistinct := keys.nodup_iff.mp leftDistinct
    rw [agrees, Bool.and_eq_true, beq_iff_eq, List.all_eq_true]
    refine ⟨reordered.length_eq, fun entry member => ?_⟩
    rw [beq_iff_eq]
    exact find?_of_mem rightDistinct (reordered.mem_iff.mp member)

include rightDistinct

theorem agrees_iff_find? :
    left.agrees right ↔ ∀ key, left.find? key = right.find? key := by
  rw [agrees_iff_perm leftDistinct,
    List.perm_ext_iff_of_nodup (nodup_toList leftDistinct) (nodup_toList rightDistinct)]
  constructor
  · intro entries key
    refine Option.ext fun value => ?_
    rw [← mem_toList_iff leftDistinct, ← mem_toList_iff rightDistinct]
    exact entries (key, value)
  · rintro lookups ⟨key, value⟩
    rw [mem_toList_iff leftDistinct, mem_toList_iff rightDistinct, lookups key]

theorem agrees_iff_toFinset :
    left.agrees right ↔ left.toList.toFinset = right.toList.toFinset := by
  rw [agrees_iff_perm leftDistinct]
  exact ⟨List.toFinset_eq_of_perm _ _, List.perm_of_nodup_nodup_toFinset_eq
    (nodup_toList leftDistinct) (nodup_toList rightDistinct)⟩

end

theorem equivalence_agrees_ofList [DecidableEq Value] :
    Equivalence fun left right : List (Key × Value) => (ofList left).agrees (ofList right) where
  refl pairs := agrees_self (nodup_keys_ofList pairs)
  symm agree := (agrees_iff_perm (nodup_keys_ofList _)).mpr
    ((agrees_iff_perm (nodup_keys_ofList _)).mp agree).symm
  trans agree next := (agrees_iff_perm (nodup_keys_ofList _)).mpr
    (((agrees_iff_perm (nodup_keys_ofList _)).mp agree).trans
      ((agrees_iff_perm (nodup_keys_ofList _)).mp next))

end Bindings

theorem RouteInfo.agrees_iff {left right : RouteInfo} :
    left.agrees right ↔
      left.matchedPath = right.matchedPath ∧ left.parameters.agrees right.parameters := by
  rw [RouteInfo.agrees, Bool.and_eq_true, beq_iff_eq]

/-- Parameters list each key of the pairs they were built from once, in order of first
occurrence and with its last value, and lookup, membership and size tell of the same map.
Two of them are equal exactly if they look up alike, which is if they have the same set of
entries. Equality is an equivalence, and matches are equal exactly if their prefixes and
their parameters are. -/
theorem Parameters.built_extensional :
    let build : List (String × String) → Parameters := Bindings.ofList
    (∀ pairs,
      let keys := (pairs.map (·.1)).eraseDups
      (build pairs).keys = keys ∧ keys.Nodup ∧ (build pairs).size = keys.length ∧
      (build pairs).toList =
        keys.filterMap (fun key => (pairs.reverse.lookup key).map (key, ·)) ∧
      ∀ key, (build pairs).find? key = pairs.reverse.lookup key ∧
        ((build pairs).find? key = none ↔ key ∉ pairs.map (·.1)) ∧
        ((build pairs).contains key ↔ key ∈ pairs.map (·.1)) ∧
        ∀ value, (key, value) ∈ (build pairs).toList ↔
          (build pairs).find? key = some value) ∧
    (∀ left right,
      ((build left).agrees (build right) ↔
        ∀ key, (build left).find? key = (build right).find? key) ∧
      ((build left).agrees (build right) ↔
        (build left).toList.toFinset = (build right).toList.toFinset) ∧
      ∀ leftPath rightPath, RouteInfo.agrees ⟨leftPath, build left⟩ ⟨rightPath, build right⟩ ↔
        leftPath = rightPath ∧ (build left).agrees (build right)) ∧
    Equivalence fun left right => (build left).agrees (build right) := by
  intro build
  refine ⟨?_, ?_, Bindings.equivalence_agrees_ofList⟩
  · intro pairs keys
    have listed : (build pairs).keys = keys := Bindings.keys_ofList pairs
    have distinct : (build pairs).keys.Nodup := Bindings.nodup_keys_ofList pairs
    have looked : (build pairs).find? = fun key => pairs.reverse.lookup key :=
      funext (Bindings.find?_ofList pairs)
    refine ⟨listed, listed ▸ distinct, ?_, ?_, fun key => ⟨?_, ?_, ?_, ?_⟩⟩
    · rw [← listed]
      exact (List.length_map _).symm
    · rw [Bindings.toList_eq_filterMap_keys distinct, listed, looked]
    · rw [looked]
    · exact Bindings.find?_eq_none_iff.trans (not_congr Bindings.mem_keys_ofList)
    · exact Bindings.contains_iff.trans Bindings.mem_keys_ofList
    · exact fun value => Bindings.mem_toList_iff distinct
  · intro left right
    have leftDistinct : (build left).keys.Nodup := Bindings.nodup_keys_ofList left
    have rightDistinct : (build right).keys.Nodup := Bindings.nodup_keys_ofList right
    exact ⟨Bindings.agrees_iff_find? leftDistinct rightDistinct,
      Bindings.agrees_iff_toFinset leftDistinct rightDistinct,
      fun _ _ => RouteInfo.agrees_iff⟩

example : (Bindings.ofList [("b", "1"), ("a", "2"), ("b", "3")]).agrees
    (Bindings.ofList [("a", "2"), ("b", "3")]) := by decide

end Router
