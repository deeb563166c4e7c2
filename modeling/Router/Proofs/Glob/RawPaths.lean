import Router.Proofs.Glob.Consumption

namespace Router

/-! ## Raw paths

Matching splits a path as it is written, whereas normalizing drops what names no segment and
takes back what was gone up from. What is split off decides whether these come to the same:
normalizing begins with the very same parts, and all that it can do is to lose some. -/

namespace Path

/-! ### A slash at either end -/

/-- What is behind a leading slash. -/
def unrooted : List Char → List Char
  | '/' :: rest => rest
  | characters => characters

/-- What is before a trailing slash. -/
def unended (characters : List Char) : List Char :=
  if characters.getLast? = some '/' then characters.dropLast else characters

theorem parts_eq (path : String) :
    parts path =
      if unended (unrooted path.toList) = [] then []
      else pieces (String.ofList (unended (unrooted path.toList))) := rfl

theorem unrooted_of_relative {path : String} (relative : isAbsolute path = false) :
    unrooted path.toList = path.toList := by
  unfold unrooted
  split
  · next rest characters => simp [isAbsolute, characters] at relative
  · rfl

theorem unended_concat (characters : List Char) : unended (characters ++ ['/']) = characters := by
  simp [unended]

theorem getLast?_of_unrooted {characters : List Char}
    (ended : (unrooted characters).getLast? = some '/') : characters.getLast? = some '/' := by
  unfold unrooted at ended
  split at ended
  · rw [List.getLast?_cons, ended]
    rfl
  · exact ended

theorem unrooted_concat {characters : List Char} (filled : characters ≠ []) :
    unrooted (characters ++ ['/']) = unrooted characters ++ ['/'] := by
  rcases List.exists_cons_of_ne_nil filled with ⟨first, rest, rfl⟩
  by_cases slash : first = '/'
  · subst slash
    rfl
  · simp [unrooted, slash]

theorem parts_slash_append {path : String} (relative : isAbsolute path = false) :
    parts ("/" ++ path) = parts path := by
  have rooted : unrooted ("/" ++ path).toList = path.toList := by simp [unrooted]
  rw [parts_eq, parts_eq, rooted, unrooted_of_relative relative]

theorem parts_append_slash {path : String} (open_end : path.toList.getLast? ≠ some '/') :
    parts (path ++ "/") = parts path := by
  by_cases empty : path = ""
  · subst empty
    decide +kernel
  · have filled : path.toList ≠ [] := fun none => empty (String.toList_eq_nil_iff.mp none)
    have characters : (path ++ "/").toList = path.toList ++ ['/'] := by simp
    have ended : unended (unrooted (path ++ "/").toList) = unrooted path.toList := by
      rw [characters, unrooted_concat filled, unended_concat]
    have kept : unended (unrooted path.toList) = unrooted path.toList :=
      if_neg (mt getLast?_of_unrooted open_end)
    rw [parts_eq, parts_eq, ended, kept]

/-! ### From parts to segments -/

theorem segments_unrooted (characters : List Char) :
    segments (String.ofList (unrooted characters)) = segments (String.ofList characters) := by
  unfold unrooted
  split
  · next rest =>
      have split : String.ofList ('/' :: rest) = joined ["", String.ofList rest] := by
        apply String.toList_inj.mp
        simp [joined]
      rw [split, segments_joined, List.flatMap_cons, List.flatMap_singleton]
      rfl
  · rfl

theorem segments_unended (characters : List Char) :
    segments (String.ofList (unended characters)) = segments (String.ofList characters) := by
  unfold unended
  split
  · next ended =>
      rcases List.getLast?_eq_some_iff.mp ended with ⟨front, rfl⟩
      have split : String.ofList (front ++ ['/']) = joined [String.ofList front, ""] := by
        apply String.toList_inj.mp
        simp [joined]
      have idle : pieces "" = [""] := by decide +kernel
      rw [List.dropLast_concat, split, segments_joined, List.flatMap_cons,
        List.flatMap_singleton, idle, segments]
      simp [reduce, follow]
  · rfl

/-- Normalizing starts from the parts as well, since a slash at either end adds nothing but
an empty piece. -/
theorem segments_eq_reduce_parts (path : String) : segments path = reduce (parts path) := by
  have body : segments (String.ofList (unended (unrooted path.toList))) = segments path := by
    rw [segments_unended, segments_unrooted, String.ofList_toList]
  rw [parts_eq, ← body]
  split
  · next empty =>
      rw [empty]
      decide +kernel
  · rfl

theorem reduce_sublist (pieces : List String) : (reduce pieces).Sublist pieces := by
  have stacked : ∀ place,
      (pieces.foldl follow place).reverse.Sublist (place.reverse ++ pieces) := by
    induction pieces with
    | nil => exact fun place => by simp
    | cons piece rest induction =>
        intro place
        refine (induction (follow place piece)).trans ?_
        unfold follow
        split
        · exact (List.sublist_cons_self piece rest).append_left _
        · split
          · exact (List.tail_sublist place).reverse.append (List.sublist_cons_self piece rest)
          · simp
  exact stacked []

/-- Whether each part of a path names a segment. -/
def Tidy (path : String) : Prop :=
  ∀ part ∈ parts path, part ≠ "" ∧ part ≠ "." ∧ part ≠ ".."

instance (path : String) : Decidable (Tidy path) :=
  inferInstanceAs (Decidable (∀ part ∈ parts path, part ≠ "" ∧ part ≠ "." ∧ part ≠ ".."))

theorem parts_eq_segments_iff {path : String} : parts path = segments path ↔ Tidy path := by
  constructor
  · intro same part member
    rw [same] at member
    rcases isSegment_of_mem_segments member with ⟨filled, notDot, notDots, -⟩
    exact ⟨filled, notDot, notDots⟩
  · intro tidy
    have legal : ∀ part ∈ parts path, IsSegment part := by
      intro part member
      rcases tidy part member with ⟨filled, notDot, notDots⟩
      exact ⟨filled, notDot, notDots, slash_notMem_of_mem_parts member⟩
    rw [segments_eq_reduce_parts, reduce_of_isSegment legal]

/-- Two slashes are one at either end; a third stands around an empty part. -/
example : Tidy "//" ∧ ¬Tidy "///" := by decide +kernel

/-- A part that names no segment makes itself felt in the number of segments. -/
theorem tidy_of_length_le {path : String}
    (few : (parts path).length ≤ (segments path).length) : Tidy path := by
  have kept : (segments path).Sublist (parts path) := by
    rw [segments_eq_reduce_parts]
    exact reduce_sublist _
  exact parts_eq_segments_iff.mp (kept.eq_of_length_le few).symm

theorem parts_normalize (path : String) : parts (normalize [path]) = segments path := by
  rw [(canonical_normalize [path]).parts_eq_segments, segments_normalize_singleton]

end Path

namespace Glob

/-! ### Counting parts -/

/-- A name for each position. -/
def ordinal (position : Nat) : String :=
  String.ofList (List.replicate (position + 1) 'a')

theorem exists_declarable (count : Nat) :
    ∃ names, Declarable names ∧ names.length = count := by
  refine ⟨(List.range count).map ordinal, ⟨?_, ?_⟩, by simp⟩
  · intro name member
    rcases List.mem_map.mp member with ⟨position, -, rfl⟩
    have letter : 'a'.isAlpha ∧ 'a'.isAlphanum := by decide
    constructor
    · simp [ordinal, List.replicate_succ, letter.1]
    · simp [ordinal, letter.2]
  · refine List.pairwise_map.mpr (List.nodup_range.imp fun different same => different ?_)
    have lengths := congrArg (fun text => text.toList.length) same
    simpa [ordinal] using lengths

theorem wellFormed_view_parameter {name : String} (named : IsName name) :
    (Segment.parameter name false).view.WellFormed := by
  have characters : (Segment.parameter name false).view.value.toList = ':' :: name.toList := by
    simp [Segment.view, Segment.value]
  refine ⟨fun empty => ?_, fun slashed => ?_, iff_of_true rfl ?_,
    fun plain => absurd plain.symm Bool.false_ne_true, fun _ => ⟨name, rfl, named, rfl⟩⟩
  · rw [empty] at characters
    cases characters
  · rw [characters] at slashed
    cases slashed with
    | tail _ inside => cases isAlphanum_of_isName named inside
  · rw [characters, List.head?_cons]

/-- Parameters with such names can be written down. -/
theorem exists_compile_parameters {names : List String} (declarable : Declarable names) :
    ∃ source, compile source =
      .ok { source, segments := names.map (.parameter · false), wildcard := false } := by
  let views := names.map fun name => (Segment.parameter name false).view
  have declared : views.filterMap View.name? = names := by
    rw [List.filterMap_map]
    exact List.filterMap_some
  have each : ∀ view ∈ views, view.WellFormed :=
    List.forall_mem_map.mpr fun name member =>
      wellFormed_view_parameter (declarable.1 name member)
  have wellFormed : WellFormed views := ⟨each, declared.symm ▸ declarable.2⟩
  have read : (views.map View.value).map Segment.ofPiece = names.map (.parameter · false) := by
    rw [List.map_map, List.map_map]
    exact List.map_congr_left fun name member =>
      ofPiece_declaration (declarable.1 name member) false
  exact ⟨_, read ▸ (wellFormed.compile_spelling false).2⟩

theorem admits_parameters_iff {names parts : List String} :
    Admits false (names.map (.parameter · false)) parts ↔
      parts.length = names.length ∧ ∀ part ∈ parts, part ≠ "" := by
  induction names generalizing parts with
  | nil =>
      rw [List.map_nil, admits_nil, List.length_nil, List.length_eq_zero_iff]
      constructor
      · rintro (rfl | ⟨⟨⟩⟩)
        exact ⟨rfl, fun _ member => (nomatch member)⟩
      · exact fun counted => .inl counted.1
  | cons name names induction =>
      cases parts with
      | nil => simp [admits_cons_nil, Segment.isOptional]
      | cons part parts =>
          rw [List.map_cons, admits_cons_cons, induction, List.forall_mem_cons,
            List.length_cons, List.length_cons, Nat.succ_inj]
          exact and_left_comm

/-- There is a glob for each number of parts. -/
theorem exists_compile_counting (count : Nat) :
    ∃ source glob, compile source = .ok glob ∧ ∀ path, (glob.matchPath? path).isSome ↔
      (Path.parts path).length = count ∧ ∀ part ∈ Path.parts path, part ≠ "" := by
  rcases exists_declarable count with ⟨names, declarable, rfl⟩
  rcases exists_compile_parameters declarable with ⟨source, compiles⟩
  exact ⟨source, _, compiles, fun path =>
    isSome_matchPath?_iff.trans admits_parameters_iff⟩

/-- No glob tells a tidy path from its normal form, and any other path is told from it by some
glob: one that takes as many parts as the normal form has. -/
theorem matchPath?_normalize_iff {path : String} :
    (∀ source glob, compile source = .ok glob →
      glob.matchPath? path = glob.matchPath? (Path.normalize [path])) ↔ Path.Tidy path := by
  constructor
  · intro alike
    rcases exists_compile_counting (Path.segments path).length with
      ⟨source, glob, compiles, counts⟩
    have normal : (glob.matchPath? (Path.normalize [path])).isSome := by
      rw [counts, Path.parts_normalize]
      exact ⟨rfl, fun part member => (Path.isSegment_of_mem_segments member).1⟩
    rw [← alike source glob compiles, counts] at normal
    exact Path.tidy_of_length_le (Nat.le_of_eq normal.1)
  · intro tidy source glob _
    rw [matchPath?, matchPath?, Path.parts_normalize, Path.parts_eq_segments_iff.mpr tidy]

/-- Matching and normalizing split a path alike exactly if each part of it names a segment,
and exactly then all globs match it as they match its normal form. Without a slash at one of
its ends, a path matches as it does with one. -/
theorem raw_paths_match_alike :
    (∀ path,
      (Path.parts path = Path.segments path ↔
        ∀ part ∈ Path.parts path, part ≠ "" ∧ part ≠ "." ∧ part ≠ "..") ∧
      ((∀ source glob, compile source = .ok glob →
        glob.matchPath? path = glob.matchPath? (Path.normalize [path])) ↔
        ∀ part ∈ Path.parts path, part ≠ "" ∧ part ≠ "." ∧ part ≠ "..")) ∧
    ∀ (glob : Glob) (path : String),
      (Path.isAbsolute path = false → glob.matchPath? path = glob.matchPath? ("/" ++ path)) ∧
      (path.toList.getLast? ≠ some '/' →
        glob.matchPath? path = glob.matchPath? (path ++ "/")) := by
  refine ⟨fun path => ⟨Path.parts_eq_segments_iff, matchPath?_normalize_iff⟩, ?_⟩
  intro glob path
  constructor
  · intro relative
    rw [matchPath?, matchPath?, Path.parts_slash_append relative]
  · intro open_end
    rw [matchPath?, matchPath?, Path.parts_append_slash open_end]

/-- A slash is to spare in each of these, but only the one in front leaves an empty part. -/
theorem raw_paths_match_alike_slashed :
    let glob := read "/user/:id"
    glob.matchPath? "user/5/" = glob.matchPath? "/user/5" ∧
      glob.matchPath? "user/5" = glob.matchPath? "/user/5" ∧
      glob.matchPath? "/user/5" = glob.matchPath? "/user/5/" ∧
      ∃ source other, compile source = .ok other ∧
        other.matchPath? "//user" ≠ other.matchPath? "/user" := by
  intro glob
  have compiles : compile "/user/:id" = .ok glob := rfl
  have normal : Path.normalize ["user/5/"] = "/user/5" := by decide +kernel
  have single : Path.normalize ["//user"] = "/user" := by decide +kernel
  have front : "/" ++ "user/5" = "/user/5" := by decide +kernel
  have back : "/user/5" ++ "/" = "/user/5/" := by decide +kernel
  have tidy := (raw_paths_match_alike.1 "user/5/").2.mpr (by decide +kernel) _ _ compiles
  have untidy := mt (raw_paths_match_alike.1 "//user").2.mp (by decide +kernel)
  have rooted := (raw_paths_match_alike.2 glob "user/5").1 (by decide +kernel)
  have ended := (raw_paths_match_alike.2 glob "/user/5").2 (by decide +kernel)
  rw [normal] at tidy
  rw [single] at untidy
  rw [front] at rooted
  rw [back] at ended
  push Not at untidy
  exact ⟨tidy, rooted, ended, untidy⟩

end Glob

end Router
