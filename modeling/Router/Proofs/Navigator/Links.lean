import Router.Proofs.Matcher.Nesting
import Router.Proofs.Navigator.Canonical
import Router.Proofs.Path.Hierarchy

namespace Router

/-! ## Links

A link is active where it leads to and everywhere below. Moves tell the same by their
directions, and so do the globs that are made of the place a link leads to: one with a
wildcard matches there and below, one without matches there alone. -/

namespace Glob

/-! ### Globs without parameters -/

variable {glob : Glob} {texts : List String}

theorem matchParts?_literals {wildcard : Bool} {parts : List String} {capture : Capture} :
    matchParts? wildcard (texts.map .literal) parts = some capture ↔
      texts <+: parts ∧ (texts = parts ∨ wildcard) ∧ capture = { consumed := texts } := by
  rw [← List.append_nil (texts.map Segment.literal), matchParts?_literals_append]
  constructor
  · intro split
    rcases split with ⟨rest, inside, rfl, matched, rfl⟩
    rw [matchParts?] at matched
    split at matched
    · next admitted =>
        cases matched
        refine ⟨List.prefix_append texts rest, admitted.imp_left fun ended => ?_, ?_⟩
        · rw [ended, List.append_nil]
        · rw [List.append_nil]
    · cases matched
  · intro literal
    rcases literal with ⟨⟨rest, rfl⟩, admitted, rfl⟩
    refine ⟨rest, {}, rfl, ?_, by rw [List.append_nil]⟩
    rw [matchParts?, if_pos (admitted.imp_left List.self_eq_append_right.mp)]

theorem matchPath?_literals (literal : glob.segments = texts.map .literal) {path : String}
    {info : RouteInfo} :
    glob.matchPath? path = some info ↔
      texts <+: Path.parts path ∧ (texts = Path.parts path ∨ glob.wildcard) ∧
        info = { matchedPath := Path.ofSegments texts } := by
  rw [matchPath?, literal, Option.map_eq_some_iff]
  simp only [matchParts?_literals]
  constructor
  · intro captured
    rcases captured with ⟨capture, ⟨before, admitted, rfl⟩, rfl⟩
    exact ⟨before, admitted, rfl⟩
  · intro found
    rcases found with ⟨before, admitted, rfl⟩
    exact ⟨_, ⟨before, admitted, rfl⟩, rfl⟩

theorem isSome_matchPath?_literals (literal : glob.segments = texts.map .literal)
    (path : String) :
    (glob.matchPath? path).isSome ↔
      texts <+: Path.parts path ∧ (texts = Path.parts path ∨ glob.wildcard) := by
  rw [Option.isSome_iff_exists]
  simp only [matchPath?_literals literal, exists_and_left, exists_eq, and_true]

theorem compile_literals {source : String}
    (literal : (read source).segments = texts.map .literal) :
    compile source = .ok (read source) := by
  refine compile_eq_ok_iff.mpr ⟨rfl, ?_⟩
  rw [literal, declaredNames_literals]
  decide

/-! ### Globs of a place -/

section

variable {place : String}
  (plain : ∀ segment ∈ Path.segments place, segment.toList.head? ≠ some ':')

include plain

/-- A wildcard below a place leaves the segments of the place as they are. -/
theorem read_place_wildcard :
    (read (Path.resolve "/" (place ++ "/*"))).segments =
        (Path.segments place).map .literal ∧
      (read (Path.resolve "/" (place ++ "/*"))).wildcard = true := by
  have relative : Path.isAbsolute "*" = false := by decide +kernel
  have named : Path.segments "*" ≠ [] := by decide +kernel
  have bare : (read (Path.resolve "/" "*")).segments = [] ∧
      (read (Path.resolve "/" "*")).wildcard = true := by decide +kernel
  have text : place ++ "/*" = Path.joined [place, "*"] := by
    rw [Path.joined_pair, String.append_assoc]
    rfl
  rw [text, Path.resolve_root_joined relative,
    segments_read_resolve_literal plain relative (by decide +kernel) named,
    wildcard_read_resolve relative named, bare.1, List.append_nil]
  exact ⟨rfl, bare.2⟩

theorem read_place_closed (canonical : Path.Canonical place) :
    (read (place ++ "/")).segments = (Path.segments place).map .literal ∧
      (read (place ++ "/")).wildcard = false := by
  -- an asterisk in front of the slash is no longer the last character
  have closed : (place ++ "/").toList.getLast? = some '/' := by
    rw [String.toList_append]
    exact List.getLast?_concat
  have wildcard : (read (place ++ "/")).wildcard = false :=
    congrArg (· == some '*') closed
  have whole : unstarred (place ++ "/") = place ++ "/" := by
    rw [unstarred, closed]
    rfl
  have text : place ++ "/" = Path.joined [place, ""] := by
    rw [Path.joined_pair, String.append_empty]
  have filled : (Path.pieces (place ++ "/")).filter (· ≠ "") = Path.segments place := by
    rw [text, Path.pieces_joined_pair, List.filter_append, ← canonical.ofSegments_segments,
      Path.filter_pieces_ofSegments fun _ => Path.isSegment_of_mem_segments,
      canonical.ofSegments_segments]
    exact List.append_nil _
  refine ⟨?_, wildcard⟩
  rw [segments_read, whole, filled]
  exact List.map_congr_left fun segment member =>
    ofPiece_of_not_isParameter (plain segment member)

end

end Glob

namespace Navigator

variable {navigator : Navigator} {target relative : String}

theorem isActive_iff_isPrefix :
    navigator.isActive target relative false ↔
      Path.segments (Path.resolve relative target) <+: Path.segments navigator.path := by
  rw [isActive, if_neg Bool.false_ne_true, List.isPrefixOf_iff_prefix]

theorem isActive_exact_iff :
    navigator.isActive target relative true ↔
      navigator.path = Path.resolve relative target := by
  rw [isActive, if_pos rfl, beq_iff_eq]

end Navigator

/-- Between canonical paths a move is deeper exactly if it leads below the path that is
left, sideways exactly if it leads to a path of as many segments, all but the last of
which are the same, and higher otherwise. What is deeper one way is higher the other way,
and to lie sideways is an equivalence. A link is active exactly where it leads to and
wherever it would be deeper to go from there. -/
theorem Direction.between_shows_hierarchy :
    (∀ previous current, Path.Canonical previous → Path.Canonical current →
      (between previous current = .deeper ↔ Path.Below previous current) ∧
      (between previous current = .sideways ↔ Path.Beside previous current) ∧
      (between previous current = .higher ↔
        ¬Path.Below previous current ∧ ¬Path.Beside previous current) ∧
      (between previous current = .deeper → between current previous = .higher)) ∧
    (Equivalence fun left right : { path // Path.Canonical path } =>
      between left right = .sideways) ∧
    ∀ initial config navigator, Navigator.Reached initial config navigator →
      ∀ target relative, navigator.isActive target relative false ↔
        Path.resolve relative target = navigator.path ∨
          between (Path.resolve relative target) navigator.path = .deeper := by
  refine ⟨?_, ⟨?_, ?_, ?_⟩, ?_⟩
  · intro previous current canonicalPrevious canonicalCurrent
    have deeper := between_eq_deeper_iff canonicalPrevious canonicalCurrent
    have back := between_eq_higher_iff canonicalCurrent canonicalPrevious
    refine ⟨deeper, between_eq_sideways_iff canonicalPrevious canonicalCurrent,
      between_eq_higher_iff canonicalPrevious canonicalCurrent, fun leads => ?_⟩
    have below := deeper.mp leads
    exact back.mpr ⟨below.not_below, fun beside => below.not_beside beside.symm⟩
  · intro path
    exact (between_eq_sideways_iff path.2 path.2).mpr ⟨rfl, rfl⟩
  · intro left right sideways
    have beside := (between_eq_sideways_iff left.2 right.2).mp sideways
    exact (between_eq_sideways_iff right.2 left.2).mpr beside.symm
  · intro left middle right sideways onward
    have beside := (between_eq_sideways_iff left.2 middle.2).mp sideways
    have further := (between_eq_sideways_iff middle.2 right.2).mp onward
    exact (between_eq_sideways_iff left.2 right.2).mpr (beside.trans further)
  · intro initial config navigator reached target relative
    have here := reached.canonical.path
    have there := Path.canonical_resolve relative target
    rw [Navigator.isActive_iff_isPrefix, there.segments_isPrefix_iff here,
      between_eq_deeper_iff there here]

/-- The root has no slash to add, and a name that another one goes on from is not above
it. -/
theorem Direction.between_shows_hierarchy_alike :
    between "/" "/movie" = .deeper ∧ between "/movie" "/" = .higher ∧
      between "/movie" "/movies/1" = .higher ∧ between "/movie" "/movies" = .sideways ∧
      ¬(Navigator.start "/movies/1" {}).isActive "../movie" "/a" false := by
  have canonical : Path.Canonical "/" ∧ Path.Canonical "/movie" ∧
      Path.Canonical "/movies" ∧ Path.Canonical "/movies/1" := by decide +kernel
  rcases canonical with ⟨root, movie, movies, first⟩
  have deeper := between_shows_hierarchy.1 "/" "/movie" root movie
  have apart := between_shows_hierarchy.1 "/movie" "/movies/1" movie first
  have beside := between_shows_hierarchy.1 "/movie" "/movies" movie movies
  have leads := deeper.1.mpr (by decide +kernel)
  have active := between_shows_hierarchy.2.2 "/movies/1" {} _ (.moved []) "../movie" "/a"
  refine ⟨leads, deeper.2.2.2 leads, apart.2.2.1.mpr (by decide +kernel),
    beside.2.1.mpr (by decide +kernel), fun shown => ?_⟩
  exact absurd (active.mp shown) (by decide +kernel)

/-- As long as the place that a link leads to spells no parameter, the link is active
exactly if the glob of this place with a wildcard below it matches the current path. What
is consumed is the place itself. The link is active as an exact one exactly if the glob
without the wildcard matches. Both globs compile. -/
theorem Navigator.isActive_iff_matched {initial : String} {config : Config}
    {navigator : Navigator} (reached : Reached initial config navigator) {matcher : Matcher}
    (sound : matcher.Sound) {target relative : String}
    (plain : ∀ segment ∈ Path.segments (Path.resolve relative target),
      segment.toList.head? ≠ some ':') :
    let place := Path.resolve relative target
    (∃ found, (matcher.matchPath (place ++ "/*") navigator.path "/").result = .ok found ∧
      (navigator.isActive target relative false ↔ found.isSome) ∧
      ∀ info ∈ found, info.matchedPath = place) ∧
    ∃ glob, Glob.compile (place ++ "/") = .ok glob ∧
      (navigator.isActive target relative true ↔ (glob.matchPath? navigator.path).isSome) := by
  intro place
  have here := reached.canonical.path
  have there : Path.Canonical place := Path.canonical_resolve relative target
  constructor
  · rcases Glob.read_place_wildcard plain with ⟨literal, wildcard⟩
    have answered : (matcher.matchPath (place ++ "/*") navigator.path "/").result =
        .ok ((Glob.read (Path.resolve "/" (place ++ "/*"))).matchPath? navigator.path) := by
      rw [sound.result_matchPath, Glob.compile_literals literal]
      rfl
    refine ⟨_, answered, ?_, ?_⟩
    · rw [isActive_iff_isPrefix, Glob.isSome_matchPath?_literals literal,
        here.parts_eq_segments]
      exact (and_iff_left (.inr wildcard)).symm
    · intro info found
      rcases (Glob.matchPath?_literals literal).mp found with ⟨-, -, rfl⟩
      exact there.ofSegments_segments
  · rcases Glob.read_place_closed plain there with ⟨literal, wildcard⟩
    refine ⟨_, Glob.compile_literals literal, ?_⟩
    rw [isActive_exact_iff, Glob.isSome_matchPath?_literals literal, wildcard,
      here.parts_eq_segments]
    constructor
    · intro arrived
      rw [arrived]
      exact ⟨List.prefix_rfl, .inl rfl⟩
    · intro matched
      rcases matched with ⟨-, same | impossible⟩
      · exact ((there.segments_inj here).mp same).symm
      · cases impossible

/-- A literal that ends in an asterisk is consumed as it stands. -/
theorem Navigator.isActive_iff_matched_starred :
    let navigator := (start "/shop" {}).applyAll [.navigate "a*/7" false]
    (∃ found,
      (Matcher.matchPath {} ("/shop/a*" ++ "/*") navigator.path "/").result = .ok found ∧
      found.isSome ∧ ∀ info ∈ found, info.matchedPath = "/shop/a*") ∧
    ∃ glob, Glob.compile ("/shop/a*" ++ "/") = .ok glob ∧
      ¬(glob.matchPath? navigator.path).isSome := by
  intro navigator
  have place : Path.resolve "/shop/x" ".././a*//" = "/shop/a*" := by decide +kernel
  have plain : ∀ segment ∈ Path.segments (Path.resolve "/shop/x" ".././a*//"),
      segment.toList.head? ≠ some ':' := by decide +kernel
  have active : navigator.isActive ".././a*//" "/shop/x" false ∧
      ¬navigator.isActive ".././a*//" "/shop/x" true := by decide +kernel
  have reached : Reached "/shop" {} navigator := .moved _
  have told := isActive_iff_matched reached Matcher.sound_new plain
  rw [place] at told
  rcases told with ⟨⟨found, answered, below, consumed⟩, glob, compiles, exact⟩
  exact ⟨⟨found, answered, below.mp active.1, consumed⟩, glob, compiles,
    fun matched => active.2 (exact.mpr matched)⟩

end Router
