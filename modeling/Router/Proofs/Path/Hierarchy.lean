import Router.Path.Direction
import Router.Proofs.Path.NormalForm

namespace Router

/-! ## Hierarchies

Paths stand one below the other by their segments, while the direction of a move is told
from the texts of its paths. On canonical paths this comes to the same: a text goes on
from another one behind a slash exactly if its segments go on from those of the other. -/

namespace Path

/-- Whether the segments of a path are those of the upper one and more. -/
def Below (upper lower : String) : Prop :=
  segments upper <+: segments lower ∧ segments upper ≠ segments lower

instance (upper lower : String) : Decidable (Below upper lower) :=
  inferInstanceAs (Decidable (_ ∧ _))

/-- Whether two paths have the same number of segments, all but the last in common. -/
def Beside (left right : String) : Prop :=
  (segments left).length = (segments right).length ∧
    (segments left).dropLast = (segments right).dropLast

instance (left right : String) : Decidable (Beside left right) :=
  inferInstanceAs (Decidable (_ ∧ _))

theorem Below.length_lt {upper lower : String} (below : Below upper lower) :
    (segments upper).length < (segments lower).length := by
  rcases below with ⟨before, different⟩
  refine Nat.lt_of_le_of_ne before.length_le fun same => different ?_
  exact before.eq_of_length same

theorem Below.not_below {upper lower : String} (below : Below upper lower) :
    ¬Below lower upper :=
  fun above => Nat.lt_asymm below.length_lt above.length_lt

theorem Beside.symm {left right : String} (beside : Beside left right) : Beside right left :=
  ⟨beside.1.symm, beside.2.symm⟩

theorem Beside.trans {left middle right : String} (beside : Beside left middle)
    (onward : Beside middle right) : Beside left right :=
  ⟨beside.1.trans onward.1, beside.2.trans onward.2⟩

theorem Below.not_beside {upper lower : String} (below : Below upper lower) :
    ¬Beside upper lower :=
  fun beside => Nat.ne_of_lt below.length_lt beside.1

/-- A path whose segments come first in another one is that path or above it. -/
theorem Canonical.segments_isPrefix_iff {upper lower : String} (canonicalUpper : Canonical upper)
    (canonicalLower : Canonical lower) :
    segments upper <+: segments lower ↔ upper = lower ∨ Below upper lower := by
  constructor
  · intro before
    by_cases same : segments upper = segments lower
    · exact .inl ((canonicalUpper.segments_inj canonicalLower).mp same)
    · exact .inr ⟨before, same⟩
  · intro either
    rcases either with rfl | below
    · exact List.prefix_rfl
    · exact below.1

/-! ### Texts that go on -/

theorem toList_joined_append {front back : List String} (some_front : front ≠ [])
    (some_back : back ≠ []) :
    (joined (front ++ back)).toList = (joined front).toList ++ '/' :: (joined back).toList := by
  induction front with
  | nil => exact absurd rfl some_front
  | cons name front induction =>
      cases front with
      | nil =>
          rcases List.exists_cons_of_ne_nil some_back with ⟨next, rest, rfl⟩
          rw [List.singleton_append, toList_joined_cons_cons, joined_singleton]
      | cons next rest =>
          have later := induction (List.cons_ne_nil next rest)
          rw [List.cons_append] at later
          rw [List.cons_append, List.cons_append, toList_joined_cons_cons, later,
            toList_joined_cons_cons, List.append_assoc, List.cons_append]

theorem isPrefix_of_text_isPrefix {upper lower : List String}
    (legalUpper : ∀ name ∈ upper, IsSegment name) (legalLower : ∀ name ∈ lower, IsSegment name)
    (goesOn : (ofSegments upper ++ "/").toList <+: (ofSegments lower).toList) :
    upper <+: lower := by
  rcases goesOn with ⟨rest, whole⟩
  have split : ofSegments lower = joined [ofSegments upper, String.ofList rest] := by
    apply String.toList_inj.mp
    rw [← whole, toList_joined_cons_cons, joined_singleton, String.toList_ofList]
    simp
  have held := filter_pieces_ofSegments legalLower
  rw [split, pieces_joined_pair, List.filter_append, filter_pieces_ofSegments legalUpper]
    at held
  exact ⟨_, held⟩

theorem text_isPrefix_append {upper rest : List String} (some_upper : upper ≠ [])
    (some_rest : rest ≠ []) :
    (ofSegments upper ++ "/").toList <+: (ofSegments (upper ++ rest)).toList := by
  refine ⟨(joined rest).toList, ?_⟩
  rw [String.toList_append, toList_ofSegments, toList_ofSegments,
    toList_joined_append some_upper some_rest]
  simp

theorem length_root_lt {names : List String} (legal : ∀ name ∈ names, IsSegment name)
    (some_name : names ≠ []) : (ofSegments []).length < (ofSegments names).length := by
  have filled : (joined names).toList ≠ [] := fun empty =>
    some_name ((joined_eq_empty_iff legal).mp (String.toList_eq_nil_iff.mp empty))
  rw [← String.length_toList, ← String.length_toList, toList_ofSegments, toList_ofSegments,
    List.length_cons, List.length_cons]
  exact Nat.succ_lt_succ (List.length_pos_iff.mpr filled)

end Path

/-! ### Directions -/

namespace Direction

theorem extendsPath_ofSegments_iff {upper lower : List String}
    (legalUpper : ∀ name ∈ upper, Path.IsSegment name)
    (legalLower : ∀ name ∈ lower, Path.IsSegment name) :
    extendsPath (Path.ofSegments upper) (Path.ofSegments lower) ↔
      upper <+: lower ∧ upper ≠ lower := by
  rw [extendsPath, Bool.and_eq_true, Bool.or_eq_true, decide_eq_true_eq, beq_iff_eq,
    List.isPrefixOf_iff_prefix, Path.ofSegments_eq_root_iff legalUpper]
  constructor
  · intro extending
    rcases extending with ⟨longer, goesOn⟩
    have different : upper ≠ lower := by
      rintro rfl
      exact Nat.lt_irrefl _ longer
    rcases goesOn with goesOn | root
    · exact ⟨Path.isPrefix_of_text_isPrefix legalUpper legalLower goesOn, different⟩
    · rw [root]
      exact ⟨List.nil_prefix, root ▸ different⟩
  · intro below
    rcases below with ⟨⟨rest, rfl⟩, different⟩
    have some_rest : rest ≠ [] := by
      rintro rfl
      exact different (List.append_nil upper).symm
    -- behind the root there is no second slash
    by_cases root : upper = []
    · subst root
      exact ⟨Path.length_root_lt legalLower some_rest, .inr rfl⟩
    · have goesOn := Path.text_isPrefix_append root some_rest
      have length := goesOn.length_le
      rw [String.length_toList, String.length_append, String.length_toList] at length
      exact ⟨length, .inl goesOn⟩

section

variable {previous current : String}

theorem extendsPath_iff (canonicalPrevious : Path.Canonical previous)
    (canonicalCurrent : Path.Canonical current) :
    extendsPath previous current ↔ Path.Below previous current := by
  rcases canonicalPrevious with ⟨upper, legalUpper, rfl⟩
  rcases canonicalCurrent with ⟨lower, legalLower, rfl⟩
  rw [Path.Below, Path.segments_ofSegments legalUpper, Path.segments_ofSegments legalLower]
  exact extendsPath_ofSegments_iff legalUpper legalLower

/-- A move is classified by how its paths lie to each other. -/
theorem between_eq (canonicalPrevious : Path.Canonical previous)
    (canonicalCurrent : Path.Canonical current) :
    between previous current =
      if Path.Below previous current then .deeper
      else if Path.Beside previous current then .sideways
      else .higher := by
  have beside : (Path.segments current).length = (Path.segments previous).length ∧
      (Path.segments current).dropLast = (Path.segments previous).dropLast ↔
        Path.Beside previous current := ⟨Path.Beside.symm, Path.Beside.symm⟩
  simp only [between, extendsPath_iff canonicalPrevious canonicalCurrent, beside]

theorem between_eq_deeper_iff (canonicalPrevious : Path.Canonical previous)
    (canonicalCurrent : Path.Canonical current) :
    between previous current = .deeper ↔ Path.Below previous current := by
  rw [between_eq canonicalPrevious canonicalCurrent]
  split
  · next below => exact iff_of_true rfl below
  · next apart =>
      refine iff_of_false ?_ apart
      split <;> exact Direction.noConfusion

theorem between_eq_sideways_iff (canonicalPrevious : Path.Canonical previous)
    (canonicalCurrent : Path.Canonical current) :
    between previous current = .sideways ↔ Path.Beside previous current := by
  rw [between_eq canonicalPrevious canonicalCurrent]
  split
  · next below => exact iff_of_false Direction.noConfusion below.not_beside
  · split
    · next beside => exact iff_of_true rfl beside
    · next apart => exact iff_of_false Direction.noConfusion apart

theorem between_eq_higher_iff (canonicalPrevious : Path.Canonical previous)
    (canonicalCurrent : Path.Canonical current) :
    between previous current = .higher ↔
      ¬Path.Below previous current ∧ ¬Path.Beside previous current := by
  rw [← between_eq_deeper_iff canonicalPrevious canonicalCurrent,
    ← between_eq_sideways_iff canonicalPrevious canonicalCurrent]
  cases between previous current <;> simp

end

end Direction

end Router
