import Router.Glob.Match
import Router.Proofs.Glob.Declaration
import Router.Proofs.Path.Resolution

namespace Router

namespace Glob

/-! ## Walks

The rules of matching leave one choice open. An optional parameter with nothing
required behind it may be left out, even where it could capture a part. A walk is one
way of going by the rules. Matching takes no notice of the choice and captures whatever
it can; no path is lost by that, as long as none of its parts is empty. -/

/-- One way of walking the segments of a glob along the parts of a path. -/
inductive Walk (wildcard : Bool) : List Segment → List String → Type
  /-- What is left of the path is left to a wildcard. -/
  | finish {parts : List String} (admitted : parts = [] ∨ wildcard) :
      Walk wildcard [] parts
  | literal {segments : List Segment} {parts : List String} (text : String)
      (walk : Walk wildcard segments parts) :
      Walk wildcard (.literal text :: segments) (text :: parts)
  | parameter {segments : List Segment} {parts : List String} (name : String)
      (optional : Bool) (part : String) (filled : part ≠ "")
      (walk : Walk wildcard segments parts) :
      Walk wildcard (.parameter name optional :: segments) (part :: parts)
  /-- An optional parameter is left out where everything behind it is optional too. -/
  | skip {segments : List Segment} {parts : List String} (name : String)
      (dispensable : ∀ segment ∈ segments, segment.isOptional)
      (walk : Walk wildcard segments parts) :
      Walk wildcard (.parameter name true :: segments) parts

namespace Walk

variable {wildcard : Bool} {segments : List Segment} {parts : List String}

/-- The parts that were walked along. -/
def consumed {segments : List Segment} {parts : List String} :
    Walk wildcard segments parts → List String
  | .finish _ => []
  | .literal text walk => text :: walk.consumed
  | .parameter _ _ part _ walk => part :: walk.consumed
  | .skip _ _ walk => walk.consumed

def captured {segments : List Segment} {parts : List String} :
    Walk wildcard segments parts → List (String × String)
  | .finish _ => []
  | .literal _ walk => walk.captured
  | .parameter name _ part _ walk => (name, part) :: walk.captured
  | .skip _ _ walk => walk.captured

def matchedPath (walk : Walk wildcard segments parts) : String :=
  Path.ofSegments walk.consumed

/-- Whether parameters are left out only once no part is left to capture. -/
def Eager {segments : List Segment} {parts : List String} :
    Walk wildcard segments parts → Prop
  | .finish _ => True
  | .literal _ walk => walk.Eager
  | .parameter _ _ _ _ walk => walk.Eager
  | @Walk.skip _ _ parts _ _ walk => parts = [] ∧ walk.Eager

/-! ### What every walk has in common -/

theorem consumed_isPrefix (walk : Walk wildcard segments parts) :
    walk.consumed <+: parts.take segments.length := by
  induction walk with
  | finish => exact List.nil_prefix
  | literal text walk induction => exact List.cons_prefix_cons.mpr ⟨rfl, induction⟩
  | parameter name optional part filled walk induction =>
      exact List.cons_prefix_cons.mpr ⟨rfl, induction⟩
  | skip name dispensable walk induction =>
      exact induction.trans (List.take_prefix_take_left (Nat.le_succ _))

/-- Without a wildcard there is a segment for each part. -/
theorem length_le (walk : Walk wildcard segments parts) :
    parts.length ≤ segments.length ∨ wildcard := by
  induction walk with
  | finish admitted => exact admitted.imp_left fun ended => by simp [ended]
  | literal text walk induction => exact induction.imp_left Nat.succ_le_succ
  | parameter name optional part filled walk induction =>
      exact induction.imp_left Nat.succ_le_succ
  | skip name dispensable walk induction => exact induction.imp_left Nat.le_succ_of_le

theorem captured_sublist (walk : Walk wildcard segments parts) :
    (walk.captured.map (·.1)).Sublist (declaredNames segments) := by
  induction walk with
  | finish => exact List.Sublist.slnil
  | literal text walk induction => exact induction
  | parameter name optional part filled walk induction => exact induction.cons_cons name
  | skip name dispensable walk induction => exact induction.cons name

theorem literal_or_captured (walk : Walk wildcard segments parts) {part : String}
    (member : part ∈ walk.consumed) :
    .literal part ∈ segments ∨ ∃ name, (name, part) ∈ walk.captured := by
  induction walk with
  | finish => cases member
  | literal text walk induction =>
      rcases List.mem_cons.mp member with rfl | member
      · exact .inl List.mem_cons_self
      · exact (induction member).imp_left (List.mem_cons_of_mem _)
  | parameter name optional own filled walk induction =>
      rcases List.mem_cons.mp member with rfl | member
      · exact .inr ⟨name, List.mem_cons_self⟩
      · refine (induction member).imp (List.mem_cons_of_mem _) ?_
        intro elsewhere
        rcases elsewhere with ⟨other, captured⟩
        exact ⟨other, List.mem_cons_of_mem _ captured⟩
  | skip name dispensable walk induction =>
      exact (induction member).imp_left (List.mem_cons_of_mem _)

/-! ### The eager walk -/

theorem Eager.matchParts? {walk : Walk wildcard segments parts} (eager : walk.Eager) :
    matchParts? wildcard segments parts = some ⟨walk.consumed, walk.captured⟩ := by
  induction walk with
  | finish admitted => simp [Glob.matchParts?, admitted, consumed, captured]
  | literal text walk induction =>
      rw [Glob.matchParts?, if_pos rfl, induction eager]
      rfl
  | parameter name optional part filled walk induction =>
      rw [Glob.matchParts?, if_neg filled, induction eager]
      rfl
  | skip name dispensable walk induction =>
      rcases eager with ⟨rfl, eager⟩
      rw [Glob.matchParts?, if_pos (by rfl), induction eager]
      rfl

/-- The eager walk comes as far as there are both segments and parts. -/
theorem Eager.consumed_eq {walk : Walk wildcard segments parts} (eager : walk.Eager) :
    walk.consumed = parts.take segments.length := by
  induction walk with
  | finish => exact List.take_zero.symm
  | literal text walk induction => exact congrArg (text :: ·) (induction eager)
  | parameter name optional part filled walk induction =>
      exact congrArg (part :: ·) (induction eager)
  | skip name dispensable walk induction =>
      rcases eager with ⟨rfl, eager⟩
      rw [consumed, induction eager, List.take_nil, List.take_nil]

theorem Eager.eq {walk other : Walk wildcard segments parts} (eager : walk.Eager)
    (otherEager : other.Eager) : other = walk := by
  induction walk with
  | finish admitted => cases other; rfl
  | literal text walk induction =>
      cases other with
      | literal text other => rw [induction eager otherEager]
  | parameter name optional part filled walk induction =>
      cases other with
      | parameter name optional part filled other => rw [induction eager otherEager]
      | skip name dispensable other => cases otherEager.1
  | skip name dispensable walk induction =>
      rcases eager with ⟨rfl, eager⟩
      cases other with
      | skip name dispensable other => rw [induction eager otherEager.2]

end Walk

theorem isOptional_of_matchParts?_nil {wildcard : Bool} {segments : List Segment}
    {capture : Capture} (matched : matchParts? wildcard segments [] = some capture) :
    ∀ segment ∈ segments, segment.isOptional := by
  induction segments with
  | nil => simp
  | cons segment segments induction =>
      rw [matchParts?] at matched
      split at matched
      · next optional => exact List.forall_mem_cons.mpr ⟨optional, induction matched⟩
      · cases matched

theorem exists_eager {wildcard : Bool} {segments : List Segment}
    {parts : List String} {capture : Capture}
    (matched : matchParts? wildcard segments parts = some capture) :
    ∃ walk : Walk wildcard segments parts, walk.Eager := by
  fun_induction matchParts? wildcard segments parts generalizing capture with
  | case1 parts admitted => exact ⟨.finish admitted, trivial⟩
  | case2 | case4 | case6 | case7 => cases matched
  | case3 segment segments optional induction =>
      rcases induction matched with ⟨walk, eager⟩
      cases segment with
      | literal text => cases optional
      | parameter name marked =>
          cases (optional : marked = true)
          exact ⟨.skip name (isOptional_of_matchParts?_nil matched) walk, rfl, eager⟩
  | case5 segments part parts induction =>
      rcases Option.map_eq_some_iff.mp matched with ⟨rest, found, -⟩
      rcases induction found with ⟨walk, eager⟩
      exact ⟨.literal part walk, eager⟩
  | case8 name optional segments part parts filled induction =>
      rcases Option.map_eq_some_iff.mp matched with ⟨rest, found, -⟩
      rcases induction found with ⟨walk, eager⟩
      exact ⟨.parameter name optional part filled walk, eager⟩

/-- Matching finds the eager walk. -/
theorem matchParts?_eq_some_iff {wildcard : Bool} {segments : List Segment}
    {parts : List String} {capture : Capture} :
    matchParts? wildcard segments parts = some capture ↔
      ∃ walk : Walk wildcard segments parts,
        walk.Eager ∧ capture = ⟨walk.consumed, walk.captured⟩ := by
  constructor
  · intro matched
    rcases exists_eager matched with ⟨walk, eager⟩
    exact ⟨walk, eager, Option.some_inj.mp (matched.symm.trans eager.matchParts?)⟩
  · intro found
    rcases found with ⟨walk, eager, rfl⟩
    exact eager.matchParts?

theorem consumed_of_matchParts? {wildcard : Bool} {segments : List Segment}
    {parts : List String} {capture : Capture}
    (matched : matchParts? wildcard segments parts = some capture) :
    capture.consumed = parts.take segments.length := by
  rcases matchParts?_eq_some_iff.mp matched with ⟨walk, eager, rfl⟩
  exact eager.consumed_eq

theorem isSegment_of_mem_consumed {wildcard : Bool} {segments : List Segment}
    {parts : List String} {capture : Capture}
    (matched : matchParts? wildcard segments parts = some capture)
    (legal : ∀ part ∈ parts, Path.IsSegment part) :
    ∀ part ∈ capture.consumed, Path.IsSegment part := by
  intro part member
  rw [consumed_of_matchParts? matched] at member
  exact legal part (List.mem_of_mem_take member)

theorem nodup_captured_of_matchParts? {wildcard : Bool} {segments : List Segment}
    {parts : List String} {capture : Capture}
    (matched : matchParts? wildcard segments parts = some capture)
    (distinct : (declaredNames segments).Nodup) :
    (capture.captured.map (·.1)).Nodup := by
  rcases matchParts?_eq_some_iff.mp matched with ⟨walk, -, rfl⟩
  exact walk.captured_sublist.nodup distinct

/-! ### No walk is lost -/

/-- Optional parameters capture whatever there is, one part each. -/
theorem matchParts?_isSome_of_isOptional {wildcard : Bool} {segments : List Segment}
    {parts : List String} (optional : ∀ segment ∈ segments, segment.isOptional)
    (filled : ∀ part ∈ parts, part ≠ "")
    (enough : parts.length ≤ segments.length ∨ wildcard) :
    (matchParts? wildcard segments parts).isSome := by
  induction segments generalizing parts with
  | nil =>
      have admitted : parts = [] ∨ wildcard := enough.imp_left fun none =>
        List.length_eq_zero_iff.mp (Nat.le_zero.mp none)
      rw [matchParts?, if_pos admitted]
      rfl
  | cons segment segments induction =>
      rcases List.forall_mem_cons.mp optional with ⟨first, others⟩
      cases segment with
      | literal text => cases first
      | parameter name optional =>
          cases parts with
          | nil =>
              rw [matchParts?, if_pos first]
              exact induction others filled (.inl (Nat.zero_le _))
          | cons part parts =>
              rcases List.forall_mem_cons.mp filled with ⟨partFilled, filled⟩
              rw [matchParts?, if_neg partFilled, Option.isSome_map]
              exact induction others filled (enough.imp_left Nat.le_of_succ_le_succ)

/-- Where a walk leaves a parameter out, everything behind it is optional, so that
matching finds room for the parts although it captures one more of them. -/
theorem Walk.matchParts?_isSome {wildcard : Bool} {segments : List Segment}
    {parts : List String} (walk : Walk wildcard segments parts)
    (filled : ∀ part ∈ parts, part ≠ "") :
    (matchParts? wildcard segments parts).isSome := by
  induction walk with
  | finish admitted =>
      rw [matchParts?, if_pos admitted]
      rfl
  | literal text walk induction =>
      rw [matchParts?, if_pos rfl, Option.isSome_map]
      exact induction fun part member => filled part (List.mem_cons_of_mem text member)
  | parameter name optional part partFilled walk induction =>
      rw [matchParts?, if_neg partFilled, Option.isSome_map]
      exact induction fun other member => filled other (List.mem_cons_of_mem part member)
  | skip name dispensable walk induction =>
      exact matchParts?_isSome_of_isOptional (List.forall_mem_cons.mpr ⟨rfl, dispensable⟩)
        filled (walk.length_le.imp_left Nat.le_succ_of_le)

/-- A way in which a glob could match a path. -/
abbrev Way (glob : Glob) (path : String) : Type :=
  Walk glob.wildcard glob.segments (Path.parts path)

/-- A path without empty parts is matched exactly if there is any way of matching it.
What matching finds is then the one way that leaves parameters out only once the path is
used up, and no other way consumes more. The parts of a canonical path are never
empty. -/
theorem matchPath?_eq_longest_way {source : String} {glob : Glob}
    (compiles : compile source = .ok glob) :
    (∀ path, Path.Filled path →
      ((glob.matchPath? path).isSome ↔ Nonempty (glob.Way path)) ∧
      ∀ info ∈ glob.matchPath? path, ∃ way : glob.Way path,
        info.matchedPath = way.matchedPath ∧
        info.parameters.toList = way.captured ∧
        (∀ other : glob.Way path,
          other.matchedPath.length ≤ info.matchedPath.length) ∧
        way.Eager ∧ ∀ other : glob.Way path, other.Eager → other = way) ∧
    ∀ path, Path.Canonical path → Path.Filled path := by
  refine ⟨fun path filled => ⟨⟨?_, ?_⟩, ?_⟩, fun path => Path.Canonical.filled⟩
  · intro matched
    rw [matchPath?, Option.isSome_map] at matched
    rcases Option.isSome_iff_exists.mp matched with ⟨capture, found⟩
    rcases matchParts?_eq_some_iff.mp found with ⟨way, -⟩
    exact ⟨way⟩
  · intro some_way
    rcases some_way with ⟨way⟩
    rw [matchPath?, Option.isSome_map]
    exact way.matchParts?_isSome filled
  · intro info matched
    rcases Option.map_eq_some_iff.mp matched with ⟨capture, found, rfl⟩
    have distinct := nodup_captured_of_matchParts? found (compile_eq_ok_iff.mp compiles).2.2
    rcases matchParts?_eq_some_iff.mp found with ⟨way, eager, rfl⟩
    refine ⟨way, rfl, Bindings.toList_ofList distinct, ?_, eager, fun other => eager.eq⟩
    intro other
    apply Path.length_ofSegments_le
    rw [eager.consumed_eq]
    exact other.consumed_isPrefix

/-- The first of two optional parameters captures the only part, although either of them
could, and the wildcard too. -/
theorem matchPath?_eq_longest_way_optional :
    ∃ way : (read "/a/:b?/:c?/*").Way "/a/1",
      way.Eager ∧ way.captured = [("b", "1")] ∧
        ∀ other : (read "/a/:b?/:c?/*").Way "/a/1",
          other.matchedPath.length ≤ "/a/1".length := by
  have compiles : compile "/a/:b?/:c?/*" = .ok (read "/a/:b?/:c?/*") := by rfl
  have canonical : Path.Canonical "/a/1" := ⟨["a", "1"], by decide +kernel, by decide +kernel⟩
  have matched : (read "/a/:b?/:c?/*").matchPath? "/a/1" =
      some { matchedPath := "/a/1", parameters := .ofList [("b", "1")] } := by
    decide +kernel
  have ways := matchPath?_eq_longest_way compiles
  rcases (ways.1 "/a/1" (ways.2 "/a/1" canonical)).2 _ matched with
    ⟨way, -, captured, longest, eager, -⟩
  exact ⟨way, eager, captured.symm, longest⟩

end Glob

end Router
