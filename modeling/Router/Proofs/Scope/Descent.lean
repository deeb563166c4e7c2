import Mathlib.Data.List.Chain
import Router.Proofs.Glob.Reading
import Router.Proofs.Navigator.Canonical
import Router.Proofs.Scope.Isolation

namespace Router

/-! ## Descending bases

The base of a matched route is text of the path that was visited, and it is read as a glob
where routes are nested. What is written there may turn into parameters. Still each of them
takes up one part, and the parts it has to take up are its own: a scope that is entered
inside another one never gets out of it. -/

namespace Glob

/-- Whether a glob leads downwards from every base: it is read from there, never climbs, and
has something of its own to match. -/
structure Downward (glob : String) : Prop where
  relative : Path.isAbsolute glob = false
  level : ".." ∉ Path.pieces glob
  own : Path.resolve "/" glob ≠ "/"

theorem Downward.segments_ne_nil {glob : String} (downward : Downward glob) :
    Path.segments glob ≠ [] := by
  intro none
  have own := downward.own
  rw [Path.resolve_root, none] at own
  exact own Path.ofSegments_nil

/-- Whatever the segments of a base become, they keep their number. -/
theorem Downward.length_base_le {glob : String} (downward : Downward glob) (base : String) :
    (Path.segments base).length ≤ (read (Path.resolve base glob)).segments.length := by
  rw [segments_read_resolve downward.relative, inherited, if_neg downward.segments_ne_nil,
    Path.remaining_of_level downward.level, List.length_append, List.length_map]
  exact Nat.le_add_right _ _

end Glob

/-- A downward glob consumes all of the base that it is read from, as long as the path goes
on from there. -/
theorem Matcher.Sound.base_isPrefix {matcher : Matcher} (sound : matcher.Sound)
    {glob path base : String} {info : RouteInfo} (downward : Glob.Downward glob)
    (canonical : Path.Canonical path) (below : Path.segments base <+: Path.segments path)
    (matched : (matcher.matchPath glob path base).result = .ok (some info)) :
    Path.segments base <+: Path.segments info.matchedPath := by
  have consumed := (sound.canonical_matchedPath canonical matched).2
  rcases sound.matchPath_eq_some_iff.mp matched with ⟨-, capture, found, rfl⟩
  have legal := Glob.isSegment_of_mem_consumed found fun part member => by
    rw [canonical.parts_eq_segments] at member
    exact Path.isSegment_of_mem_segments member
  have length : (Path.segments capture.info.matchedPath).length =
      min (Glob.read (Path.resolve base glob)).segments.length (Path.segments path).length := by
    rw [Glob.Capture.info, Path.segments_ofSegments legal, Glob.consumed_of_matchParts? found,
      canonical.parts_eq_segments, List.length_take]
  refine List.prefix_of_prefix_length_le below consumed ?_
  rw [length]
  exact Nat.le_min.mpr ⟨downward.length_base_le base, below.length_le⟩

namespace Scope

/-- Scopes entered one inside the other. Each glob is matched against the same path, by any
matcher and from the base of the scope around it; what it matches is the base inside. -/
inductive Nested (path : String) : String → List String → List String → Prop
  | outermost (base : String) : Nested path base [] []
  | entered {matcher : Matcher} {base glob : String} {info : RouteInfo}
      {globs bases : List String} (sound : matcher.Sound)
      (matched : (matcher.matchPath glob path base).result = .ok (some info))
      (inside : Nested path info.matchedPath globs bases) :
      Nested path base (glob :: globs) (info.matchedPath :: bases)

/-- Whether each of the bases stands at or below the one before it, and each one inside the
outermost is canonical and a front part of the path. -/
structure Descends (path : String) (bases : List String) : Prop where
  chain : bases.IsChain fun outer inner => Path.segments outer <+: Path.segments inner
  within : ∀ inner ∈ bases.tail,
    Path.Canonical inner ∧ Path.segments inner <+: Path.segments path

theorem Nested.descends {path base : String} {globs bases : List String}
    (nested : Nested path base globs bases) (canonical : Path.Canonical path)
    (below : Path.segments base <+: Path.segments path)
    (downward : ∀ glob ∈ globs, Glob.Downward glob) : Descends path (base :: bases) := by
  induction nested with
  | outermost base => exact ⟨List.isChain_singleton base, fun _ member => (nomatch member)⟩
  | entered sound matched inside induction =>
      rcases List.forall_mem_cons.mp downward with ⟨first, others⟩
      have found := sound.canonical_matchedPath canonical matched
      have descends := induction found.2 others
      constructor
      · exact List.isChain_cons_cons.mpr
          ⟨sound.base_isPrefix first canonical below matched, descends.chain⟩
      · exact List.forall_mem_cons.mpr ⟨found, descends.within⟩

/-! ### Nested routes in a program -/

/-- Routes with these globs, each inside the one before it, and a body in the innermost. -/
def nestedRoutes (globs : List String) (body : List Statement) : List Statement :=
  globs.foldr (fun glob inside => [.route glob inside]) body

/-- The bases that the variables hold where a program comes to its statements. -/
def basesVisited (program : List Statement) (world : World) : List String :=
  (visitsAll program world.surroundings world).map (·.surroundings.base)

theorem World.matchPath_eq_some_iff {world : World} {name : String} {navigator : Navigator}
    (around : world.navigator? = some (name, navigator)) {glob : String} {info : RouteInfo} :
    world.matchPath glob = .ok (some info) ↔
      (Matcher.matchPath {} glob navigator.path world.surroundings.base).result =
        .ok (some info) := by
  simp only [World.matchPath, World.current_eq_ok_iff.mpr around, bind, Except.bind]
  cases (Matcher.matchPath {} glob navigator.path world.surroundings.base).result with
  | error error => simp [Except.mapError]
  | ok found => simp [Except.mapError]

theorem basesVisited_route_of_matched {world : World} {glob : String} {info : RouteInfo}
    (matched : world.matchPath glob = .ok (some info)) (inside : List Statement) :
    basesVisited [.route glob inside] world =
      world.surroundings.base :: basesVisited inside (world.insideRoute info) := by
  simp only [basesVisited, visitsAll, Statement.visitsInside, matched, ite_self,
    List.append_nil, List.map_cons]
  rfl

theorem basesVisited_route_of_unmatched {world : World} {glob : String}
    (unmatched : ∀ info, world.matchPath glob ≠ .ok (some info)) (inside : List Statement) :
    basesVisited [.route glob inside] world = [world.surroundings.base] := by
  simp only [basesVisited, visitsAll, Statement.visitsInside, ite_self, List.append_nil,
    List.map_cons]
  split
  · next info matched => exact absurd matched (unmatched info)
  · rfl
  · rfl

/-- The scopes that a run comes into are nested as their globs are. -/
theorem exists_nested_basesVisited {world : World} {name : String} {navigator : Navigator}
    (around : world.navigator? = some (name, navigator)) (globs : List String) (act : Act) :
    ∃ entered bases, entered <+: globs ∧
      Nested navigator.path world.surroundings.base entered bases ∧
      basesVisited (nestedRoutes globs [.act act]) world = world.surroundings.base :: bases := by
  induction globs generalizing world with
  | nil =>
      refine ⟨[], [], List.prefix_rfl, .outermost _, ?_⟩
      simp [basesVisited, nestedRoutes, visitsAll, Statement.visitsInside]
  | cons glob globs induction =>
      by_cases matched : ∃ info, world.matchPath glob = .ok (some info)
      · rcases matched with ⟨info, matched⟩
        have inside : (world.insideRoute info).navigator? = some (name, navigator) := around
        rcases induction inside with ⟨entered, bases, front, nested, visited⟩
        have found := (World.matchPath_eq_some_iff around).mp matched
        refine ⟨glob :: entered, info.matchedPath :: bases,
          List.cons_prefix_cons.mpr ⟨rfl, front⟩, .entered Matcher.sound_new found nested, ?_⟩
        rw [nestedRoutes, List.foldr_cons, basesVisited_route_of_matched matched]
        exact congrArg (world.surroundings.base :: ·) visited
      · rw [not_exists] at matched
        exact ⟨[], [], List.nil_prefix, .outermost _, basesVisited_route_of_unmatched matched _⟩

/-- Whatever a visited path looks like, nested scopes only descend on it. Where globs that
lead downwards are matched one inside the other, from a base that the path goes on from,
each base that is entered goes on from the one around it, and is canonical and a front part
of the path. The same is true of the bases that a program finds in force on its way into
nested routes. -/
theorem nested_scopes_descend {path base : String} (canonical : Path.Canonical path)
    (below : Path.segments base <+: Path.segments path) {globs : List String}
    (downward : ∀ glob ∈ globs, Glob.Downward glob) :
    (∀ bases, Nested path base globs bases → Descends path (base :: bases)) ∧
    ∀ (world : World) (name : String) (navigator : Navigator) (act : Act),
      world.navigator? = some (name, navigator) → navigator.path = path →
      world.surroundings.base = base →
      ∃ bases, basesVisited (nestedRoutes globs [.act act]) world = base :: bases ∧
        Descends path (base :: bases) := by
  constructor
  · exact fun bases nested => nested.descends canonical below downward
  · rintro world name navigator act around rfl rfl
    rcases exists_nested_basesVisited around globs act with
      ⟨entered, bases, front, nested, visited⟩
    exact ⟨bases, visited, nested.descends canonical below fun glob member =>
      downward glob (front.subset member)⟩

/-- The base spells an optional parameter and a literal that ends in an asterisk. Both stay
what they were, even though the glob that is read from there captures a part as well and
leaves the rest to a wildcard. -/
theorem nested_scopes_descend_captured :
    Nested "/:a?/b*/7/x/y" "/:a?/b*" [".//:id/*", "x*"] ["/:a?/b*/7", "/:a?/b*/7/x"] ∧
      Descends "/:a?/b*/7/x/y" ["/:a?/b*", "/:a?/b*/7", "/:a?/b*/7/x"] ∧
      ∃ bases, basesVisited (nestedRoutes [".//:id/*", "x*"] [.act .getBase])
          { navigators := .ofList [("main", .start "/:a?/b*/7/x/y" {})]
            surroundings := { navigator := some "main", base := "/:a?/b*" } } =
            "/:a?/b*" :: bases ∧
        Descends "/:a?/b*/7/x/y" ("/:a?/b*" :: bases) := by
  have canonical : Path.Canonical "/:a?/b*/7/x/y" :=
    ⟨[":a?", "b*", "7", "x", "y"], by decide +kernel, by decide +kernel⟩
  have below : Path.segments "/:a?/b*" <+: Path.segments "/:a?/b*/7/x/y" := by decide +kernel
  have outer : Glob.Downward ".//:id/*" :=
    ⟨by decide +kernel, by decide +kernel, by decide +kernel⟩
  have inner : Glob.Downward "x*" := ⟨by decide +kernel, by decide +kernel, by decide +kernel⟩
  have downward : ∀ glob ∈ [".//:id/*", "x*"], Glob.Downward glob := by simp [outer, inner]
  have first : (Matcher.matchPath {} ".//:id/*" "/:a?/b*/7/x/y" "/:a?/b*").result =
      .ok (some ⟨"/:a?/b*/7", .ofList [("a", ":a?"), ("id", "7")]⟩) := by rfl
  have second : (Matcher.matchPath {} "x*" "/:a?/b*/7/x/y" "/:a?/b*/7").result =
      .ok (some ⟨"/:a?/b*/7/x", .ofList [("a", ":a?")]⟩) := by rfl
  have nested := Nested.entered Matcher.sound_new first
    (.entered Matcher.sound_new second (.outermost _))
  have here : (Navigator.start "/:a?/b*/7/x/y" {}).path = "/:a?/b*/7/x/y" := by decide +kernel
  have told := nested_scopes_descend canonical below downward
  exact ⟨nested, told.1 _ nested,
    told.2 _ "main" (.start "/:a?/b*/7/x/y" {}) .getBase (by decide +kernel) here rfl⟩

end Scope

end Router
