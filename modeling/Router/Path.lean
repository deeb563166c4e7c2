namespace Router.Path

/-! ## Paths

A path is a text of segments behind slashes, with `/` alone as the root. The
pieces of a text are what stands between its slashes; the segments of a path are
the pieces that survive once empty pieces and `.` are dropped and each `..` has
removed the segment before it. -/

/-- What stands between the slashes of a text. A text without slashes is one piece. -/
def pieces (text : String) : List String :=
  (text.toList.splitOn '/').map String.ofList

def joined (parts : List String) : String :=
  "/".intercalate parts

/-- The path with these segments; without segments it is the root. -/
def ofSegments (segments : List String) : String :=
  "/" ++ joined segments

/-- Follows one piece from the place whose segments are stacked deepest first.
Going up from the root stays at the root. -/
def follow (place : List String) (piece : String) : List String :=
  if piece = "" ∨ piece = "." then place
  else if piece = ".." then place.tail
  else piece :: place

def reduce (pieces : List String) : List String :=
  (pieces.foldl follow []).reverse

/-- The segments of a text, outermost first. The root has none. -/
def segments (path : String) : List String :=
  reduce (pieces path)

/-- The pieces of a path as it is written, behind one leading slash and before one
trailing slash. Nothing is dropped from between them. -/
def parts (path : String) : List String :=
  let unrooted := match path.toList with
    | '/' :: rest => rest
    | characters => characters
  let body := if unrooted.getLast? = some '/' then unrooted.dropLast else unrooted
  if body = [] then [] else pieces (String.ofList body)

/-- Joins the parts with slashes and drops whatever names no segment. -/
def normalize (parts : List String) : String :=
  ofSegments (segments (joined parts))

/-- Whether a text starts with a slash, so that it is read from the root. -/
def isAbsolute (text : String) : Bool :=
  text.toList.head? == some '/'

/-- Reads `target` from the root if it is absolute and from `base` otherwise. -/
def resolve (base target : String) : String :=
  if isAbsolute target then normalize [target] else normalize [base, target]

example : normalize ["/settings", "../../.."] = "/" := by decide +kernel

example : parts "/user//5/" = ["user", "", "5"] ∧ parts "//" = [] := by decide +kernel

example : resolve "/news/latest" "../archive//" = "/news/archive" := by decide +kernel

/-! ### Canonical paths -/

/-- A segment as it may stand in a canonical path. -/
def IsSegment (segment : String) : Prop :=
  segment ≠ "" ∧ segment ≠ "." ∧ segment ≠ ".." ∧ '/' ∉ segment.toList

instance (segment : String) : Decidable (IsSegment segment) :=
  inferInstanceAs (Decidable (_ ∧ _ ∧ _ ∧ _))

/-- A path is canonical when it is made of segments and nothing else. -/
def Canonical (path : String) : Prop :=
  ∃ segments, (∀ segment ∈ segments, IsSegment segment) ∧ path = ofSegments segments

/-! ### Segments of what was made of segments -/

theorem pieces_joined {parts : List String} (some_part : parts ≠ [])
    (unslashed : ∀ part ∈ parts, '/' ∉ part.toList) : pieces (joined parts) = parts := by
  have characters : (joined parts).toList =
      ['/'].intercalate (parts.map String.toList) := by
    rw [joined, String.toList_intercalate]
    rfl
  rw [pieces, characters, List.splitOn_intercalate]
  · simp [List.map_map, Function.comp_def]
  · simpa using unslashed
  · simpa using some_part

theorem reduce_of_isSegment {segments : List String}
    (legal : ∀ segment ∈ segments, IsSegment segment) : reduce segments = segments := by
  have stacked : ∀ place, segments.foldl follow place = segments.reverse ++ place := by
    induction segments with
    | nil => intro place; rfl
    | cons segment rest induction =>
        intro place
        obtain ⟨nonempty, notDot, notDots, _⟩ := legal segment (by simp)
        rw [List.foldl_cons, induction fun other member =>
          legal other (List.mem_cons_of_mem _ member)]
        simp [follow, nonempty, notDot, notDots]
  simp [reduce, stacked]

theorem ofSegments_cons (segment : String) (rest : List String) :
    ofSegments (segment :: rest) = joined ("" :: segment :: rest) := by
  apply String.toList_inj.mp
  simp [ofSegments, joined, String.toList_intercalate, List.intercalate]

theorem segments_ofSegments {segments : List String}
    (legal : ∀ segment ∈ segments, IsSegment segment) :
    Path.segments (ofSegments segments) = segments := by
  cases segments with
  | nil => decide +kernel
  | cons segment rest =>
      have unslashed : ∀ part ∈ "" :: segment :: rest, '/' ∉ part.toList := by
        intro part member
        rcases List.mem_cons.mp member with equal | member
        · simp [equal]
        · exact (legal part member).2.2.2
      rw [Path.segments, ofSegments_cons, pieces_joined (by simp) unslashed]
      exact reduce_of_isSegment legal

end Router.Path
