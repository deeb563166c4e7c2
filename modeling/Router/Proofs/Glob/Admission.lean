import Router.Glob.Match

namespace Router.Glob

/-! ## Admission

Whether a glob matches is decided position by position. Each segment looks at the part it
stands over and at no other; segments beyond the parts have to be optional, and parts
beyond the segments are left to a wildcard. What a match consumes and captures is read off
in the same way. -/

/-- Whether a segment takes up a part. -/
def Segment.Admits : Segment → String → Prop
  | .literal text, part => part = text
  | .parameter _ _, part => part ≠ ""

/-- Whether segments may all be left out. -/
def Dispensable (segments : List Segment) : Prop :=
  ∀ segment ∈ segments, segment.isOptional

instance (segments : List Segment) : Decidable (Dispensable segments) :=
  inferInstanceAs (Decidable (∀ segment ∈ segments, segment.isOptional))

structure Admits (wildcard : Bool) (segments : List Segment) (parts : List String) :
    Prop where
  enough : parts.length ≤ segments.length ∨ wildcard
  dispensable : Dispensable (segments.drop parts.length)
  each : ∀ (position : Nat) (segment : Segment) (part : String),
    segments[position]? = some segment → parts[position]? = some part → segment.Admits part

/-- The parts under parameters, each with the name of its own. -/
def captures (segments : List Segment) (parts : List String) : List (String × String) :=
  (segments.zip parts).filterMap fun pair => pair.1.name?.map (·, pair.2)

section

variable {wildcard : Bool} {segment : Segment} {segments : List Segment}
  {part : String} {parts : List String}

theorem admits_nil : Admits wildcard [] parts ↔ parts = [] ∨ wildcard := by
  constructor
  · intro admits
    exact admits.enough.imp_left fun none => List.length_eq_zero_iff.mp (Nat.le_zero.mp none)
  · intro ended
    refine ⟨ended.imp_left fun none => by simp [none], ?_, fun _ _ _ there => (nomatch there)⟩
    rw [List.drop_nil]
    exact fun _ member => (nomatch member)

theorem admits_cons_nil :
    Admits wildcard (segment :: segments) [] ↔
      segment.isOptional ∧ Admits wildcard segments [] := by
  constructor
  · intro admits
    rcases List.forall_mem_cons.mp admits.dispensable with ⟨optional, dispensable⟩
    exact ⟨optional, .inl (Nat.zero_le _), dispensable, fun _ _ _ _ there => (nomatch there)⟩
  · rintro ⟨optional, admits⟩
    exact ⟨.inl (Nat.zero_le _), List.forall_mem_cons.mpr ⟨optional, admits.dispensable⟩,
      fun _ _ _ _ there => (nomatch there)⟩

theorem admits_cons_cons :
    Admits wildcard (segment :: segments) (part :: parts) ↔
      segment.Admits part ∧ Admits wildcard segments parts := by
  constructor
  · intro admits
    exact ⟨admits.each 0 segment part rfl rfl, admits.enough.imp_left Nat.le_of_succ_le_succ,
      admits.dispensable, fun position => admits.each (position + 1)⟩
  · rintro ⟨first, admits⟩
    refine ⟨admits.enough.imp_left Nat.succ_le_succ, admits.dispensable, ?_⟩
    intro position other taken
    cases position with
    | zero =>
        rintro ⟨⟩ ⟨⟩
        exact first
    | succ position => exact admits.each position other taken

theorem mem_captures_iff {name : String} :
    (name, part) ∈ captures segments parts ↔
      ∃ position : Nat, ∃ segment : Segment, segments[position]? = some segment ∧
        segment.name? = some name ∧ parts[position]? = some part := by
  rw [captures, List.mem_filterMap]
  constructor
  · rintro ⟨⟨segment, taken⟩, member, named⟩
    rcases Option.map_eq_some_iff.mp named with ⟨own, declared, same⟩
    cases same
    rcases List.mem_iff_getElem?.mp member with ⟨position, there⟩
    rcases List.getElem?_zip_eq_some.mp there with ⟨segmentThere, partThere⟩
    exact ⟨position, segment, segmentThere, declared, partThere⟩
  · rintro ⟨position, segment, segmentThere, declared, partThere⟩
    refine ⟨(segment, part), ?_, by simp [declared]⟩
    exact List.mem_iff_getElem?.mpr
      ⟨position, List.getElem?_zip_eq_some.mpr ⟨segmentThere, partThere⟩⟩

end

/-- What a match finds. -/
def admitted (segments : List Segment) (parts : List String) : Capture where
  consumed := parts.take segments.length
  captured := captures segments parts

/-- Walking along the segments comes to the same as comparing position by position. -/
theorem matchParts?_eq_some_iff_admits {wildcard : Bool} {segments : List Segment}
    {parts : List String} {capture : Capture} :
    matchParts? wildcard segments parts = some capture ↔
      Admits wildcard segments parts ∧ capture = admitted segments parts := by
  fun_induction matchParts? wildcard segments parts generalizing capture with
  | case1 parts ended =>
      rw [admits_nil, and_iff_right ended, Option.some_inj]
      exact eq_comm
  | case2 parts unended => simp [admits_nil, unended]
  | case3 segment segments optional induction =>
      rw [induction, admits_cons_nil, and_iff_right optional]
      simp [admitted, captures]
  | case4 segment segments required => simp [admits_cons_nil, required]
  | case5 segments part parts induction =>
      simp only [Option.map_eq_some_iff, induction, admits_cons_cons]
      constructor
      · rintro ⟨_, ⟨admits, rfl⟩, rfl⟩
        exact ⟨⟨rfl, admits⟩, rfl⟩
      · rintro ⟨⟨-, admits⟩, rfl⟩
        exact ⟨_, ⟨admits, rfl⟩, rfl⟩
  | case6 text segments part parts different =>
      simp [admits_cons_cons, Segment.Admits, different]
  | case7 => simp [admits_cons_cons, Segment.Admits]
  | case8 name optional segments part parts filled induction =>
      simp only [Option.map_eq_some_iff, induction, admits_cons_cons]
      constructor
      · rintro ⟨_, ⟨admits, rfl⟩, rfl⟩
        exact ⟨⟨filled, admits⟩, rfl⟩
      · rintro ⟨⟨-, admits⟩, rfl⟩
        exact ⟨_, ⟨admits, rfl⟩, rfl⟩

theorem isSome_matchPath?_iff {glob : Glob} {path : String} :
    (glob.matchPath? path).isSome ↔ Admits glob.wildcard glob.segments (Path.parts path) := by
  rw [matchPath?, Option.isSome_map, Option.isSome_iff_exists]
  simp only [matchParts?_eq_some_iff_admits, exists_and_left, exists_eq, and_true]

end Router.Glob
