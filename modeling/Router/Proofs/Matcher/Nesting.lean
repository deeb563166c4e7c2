import Router.Proofs.Glob.Reading
import Router.Proofs.Glob.Walk
import Router.Proofs.Matcher.Slot

namespace Router

/-! ## Nested routes

A nested route is read from the path that its parent matched. As long as nothing in
there begins with a colon, this is the same as matching the rest of the path on its own.
What does begin with a colon is taken for a parameter, even if it was captured from the
path that is being matched. -/

namespace Glob

/-- Literals in front consume an equal front of the parts. -/
theorem matchParts?_literals_append {wildcard : Bool} {front parts : List String}
    {segments : List Segment} {capture : Capture} :
    matchParts? wildcard (front.map .literal ++ segments) parts = some capture ↔
      ∃ rest inside, parts = front ++ rest ∧
        matchParts? wildcard segments rest = some inside ∧
        capture = { inside with consumed := front ++ inside.consumed } := by
  induction front generalizing parts capture with
  | nil =>
      constructor
      · exact fun matched => ⟨parts, capture, rfl, matched, rfl⟩
      · intro split
        rcases split with ⟨rest, inside, rfl, matched, rfl⟩
        exact matched
  | cons text front induction =>
      rw [List.map_cons, List.cons_append]
      cases parts with
      | nil =>
          rw [matchParts?]
          constructor
          · intro matched
            cases matched
          · intro split
            rcases split with ⟨rest, inside, none, -⟩
            cases none
      | cons part parts =>
          rw [matchParts?]
          constructor
          · intro matched
            split at matched
            · next same =>
                rcases Option.map_eq_some_iff.mp matched with ⟨later, found, rfl⟩
                rcases induction.mp found with ⟨rest, inside, rfl, inner, rfl⟩
                exact ⟨rest, inside, by rw [same]; rfl, inner, by rw [same]; rfl⟩
            · cases matched
          · intro split
            rcases split with ⟨rest, inside, same, inner, rfl⟩
            rcases List.cons.inj same with ⟨rfl, rfl⟩
            have found := induction.mpr ⟨rest, inside, rfl, inner, rfl⟩
            rw [if_pos rfl]
            exact congrArg (Option.map (Capture.consume part)) found

/-- A base without colons adds its segments as literals to a level glob. -/
theorem segments_read_resolve_literal {base source : String}
    (plain : ∀ segment ∈ Path.segments base, segment.toList.head? ≠ some ':')
    (relative : Path.isAbsolute source = false) (level : ".." ∉ Path.pieces source)
    (named : Path.segments source ≠ []) :
    (read (Path.resolve base source)).segments =
      (Path.segments base).map .literal ++ (read (Path.resolve "/" source)).segments := by
  rw [segments_read_resolve relative, inherited, if_neg named,
    Path.remaining_of_level level]
  congr 1
  exact List.map_congr_left fun segment member =>
    ofPiece_of_not_isParameter (plain segment member)

end Glob

namespace Matcher

/-- Below a base that spells no parameter, a level relative glob is refused for the same
names as at the root. It matches a path exactly if the path goes on from the base and the
glob, read from the root, matches what comes then. Nothing of the base is captured. -/
theorem matchPath_nested {outer inner : Matcher} (outerSound : outer.Sound)
    (innerSound : inner.Sound) {base path glob : String}
    (plain : ∀ segment ∈ Path.segments base, segment.toList.head? ≠ some ':')
    (canonical : Path.Canonical path) (relative : Path.isAbsolute glob = false)
    (level : ".." ∉ Path.pieces glob) (own : Path.resolve "/" glob ≠ "/") :
    (∀ parameter culprit,
      (∃ text, (outer.matchPath glob path base).result =
        .error { glob := text, parameter, culprit }) ↔
      ∃ text, (inner.matchPath glob "/" "/").result =
        .error { glob := text, parameter, culprit }) ∧
    ∀ info, (outer.matchPath glob path base).result = .ok (some info) ↔
      ∃ rest inside, Path.segments path = Path.segments base ++ rest ∧
        (inner.matchPath glob (Path.ofSegments rest) "/").result = .ok (some inside) ∧
        info =
          { matchedPath :=
              Path.ofSegments (Path.segments base ++ Path.segments inside.matchedPath)
            parameters := inside.parameters } := by
  have named : Path.segments glob ≠ [] := by
    intro none
    rw [Path.resolve_root, none, Path.ofSegments_nil] at own
    exact own rfl
  have segments := Glob.segments_read_resolve_literal plain relative level named
  have wildcard := Glob.wildcard_read_resolve relative named base
  have names : Glob.declaredNames (Glob.read (Path.resolve base glob)).segments =
      Glob.declaredNames (Glob.read (Path.resolve "/" glob)).segments := by
    rw [segments, Glob.declaredNames_append, Glob.declaredNames_literals, List.nil_append]
  constructor
  · intro parameter culprit
    simp only [outerSound.result_matchPath, innerSound.result_matchPath, Except.map_eq_error_iff,
      Glob.compile_eq_error_iff, names, exists_and_left, exists_eq]
  · intro info
    -- both ways the rest of the path is made of segments, and so is what is consumed of it
    have legal : ∀ rest, Path.segments path = Path.segments base ++ rest →
        ∀ segment ∈ rest, Path.IsSegment segment := fun rest split segment member =>
      Path.isSegment_of_mem_segments (split ▸ List.mem_append_right _ member)
    rw [outerSound.matchPath_eq_some_iff]
    simp only [segments, wildcard, Glob.declaredNames_append, Glob.declaredNames_literals,
      List.nil_append, canonical.parts_eq_segments, Glob.matchParts?_literals_append]
    constructor
    · intro below
      rcases below with ⟨declarable, _, ⟨rest, inside, split, found, rfl⟩, rfl⟩
      refine ⟨rest, inside.info, split, ?_, ?_⟩
      · rw [innerSound.matchPath_eq_some_iff, Path.parts_ofSegments (legal rest split)]
        exact ⟨declarable, inside, found, rfl⟩
      · have consumed := Glob.isSegment_of_mem_consumed found (legal rest split)
        simp only [Glob.Capture.info, Path.segments_ofSegments consumed]
    · intro alone
      rcases alone with ⟨rest, inside, split, matched, rfl⟩
      rw [innerSound.matchPath_eq_some_iff, Path.parts_ofSegments (legal rest split)]
        at matched
      rcases matched with ⟨declarable, capture, found, rfl⟩
      refine ⟨declarable, _, ⟨rest, capture, split, found, rfl⟩, ?_⟩
      have consumed := Glob.isSegment_of_mem_consumed found (legal rest split)
      simp only [Glob.Capture.info, Path.segments_ofSegments consumed]

/-- A literal that ends in an asterisk stays a literal, and the redundant slash and dot of
the nested glob change nothing. -/
theorem matchPath_nested_starred :
    ∃ info, (Matcher.matchPath {} ".//:id/b*" "/a*/7/b/c" "/a*").result =
        .ok (some info) ∧
      info.matchedPath = "/a*/7/b" ∧ info.parameters.toList = [("id", "7")] := by
  have canonical : Path.Canonical "/a*/7/b/c" :=
    ⟨["a*", "7", "b", "c"], by decide +kernel, by decide +kernel⟩
  have plain : ∀ segment ∈ Path.segments "/a*", segment.toList.head? ≠ some ':' := by
    decide +kernel
  have relative : Path.isAbsolute ".//:id/b*" = false := by decide +kernel
  have nested := matchPath_nested sound_new sound_new plain canonical relative
    (by decide +kernel) (by decide +kernel)
  have inside : (Matcher.matchPath {} ".//:id/b*" (Path.ofSegments ["7", "b", "c"]) "/").result =
      .ok (some { matchedPath := "/7/b", parameters := .ofList [("id", "7")] }) := by
    rfl
  exact ⟨_, (nested.2 _).mpr ⟨_, _, by decide +kernel, inside, rfl⟩, by decide +kernel,
    by decide +kernel⟩

/-! ### Captured text in a base -/

end Matcher

namespace Glob

/-- Parts that begin with a colon are never consumed by literals. -/
theorem exists_captured_of_colon {wildcard : Bool} {source : String} {parts : List String}
    {capture : Capture}
    (matched : matchParts? wildcard (read source).segments parts = some capture)
    {part : String} (member : part ∈ capture.consumed)
    (colon : part.toList.head? = some ':') : ∃ name, (name, part) ∈ capture.captured := by
  rcases matchParts?_eq_some_iff.mp matched with ⟨walk, -, rfl⟩
  rcases walk.literal_or_captured member with literal | captured
  · exact absurd colon (head?_ne_colon_of_literal_mem literal)
  · exact captured

end Glob

namespace Matcher

/-- The names that a matched path spells are spelled by parts that parameters captured. -/
theorem Sound.exists_captured_of_spelled {matcher : Matcher} (sound : matcher.Sound)
    {glob path relative nested : String} {info : RouteInfo}
    (canonical : Path.Canonical path)
    (matched : (matcher.matchPath glob path relative).result = .ok (some info))
    {name : String}
    (spelled : name ∈ Glob.declaredNames (Glob.inherited info.matchedPath nested)) :
    ∃ entry ∈ info.parameters.toList, Glob.Spells entry.2 name := by
  rcases sound.matchPath_eq_some_iff.mp matched with ⟨declarable, capture, found, rfl⟩
  have partsLegal : ∀ part ∈ Path.parts path, Path.IsSegment part := by
    intro part member
    rw [canonical.parts_eq_segments] at member
    exact Path.isSegment_of_mem_segments member
  have base : Path.segments capture.info.matchedPath = capture.consumed :=
    Path.segments_ofSegments (Glob.isSegment_of_mem_consumed found partsLegal)
  have captured : capture.info.parameters.toList = capture.captured :=
    Bindings.toList_ofList (Glob.nodup_captured_of_matchParts? found declarable.2)
  rcases Glob.exists_spells_of_mem_inherited spelled with ⟨text, consumed, spells⟩
  rw [base] at consumed
  rcases Glob.exists_captured_of_colon found consumed spells.colon with
    ⟨capturing, entry⟩
  exact ⟨(capturing, text), captured ▸ entry, spells⟩

/-- Below a path that another glob matched, a relative glob that compiles at the root
compiles exactly if the names that the matched path spells can be declared along with
those of the glob. If it does not compile, the blame is put on a name spelled by a part
that was captured from the path. -/
theorem compiles_nested_iff {outer inner : Matcher} (outerSound : outer.Sound)
    (innerSound : inner.Sound) {glob path relative nested : String} {info : RouteInfo}
    (canonical : Path.Canonical path)
    (matched : (outer.matchPath glob path relative).result = .ok (some info))
    (legal : ∃ answer, (inner.matchPath nested "/" "/").result = .ok answer) :
    let spelled := Glob.declaredNames (Glob.inherited info.matchedPath nested)
    let declared := Glob.declaredNames (Glob.read (Path.resolve "/" nested)).segments
    let result := (inner.matchPath nested path info.matchedPath).result
    ((∃ answer, result = .ok answer) ↔
      Path.isAbsolute nested ∨
        Glob.Declarable spelled ∧ ∀ name ∈ spelled, name ∉ declared) ∧
    ∀ error, result = .error error →
      ∃ entry ∈ info.parameters.toList, Glob.Spells entry.2 error.parameter := by
  intro spelled declared result
  rw [innerSound.compiles_iff] at legal
  cases absolute : Path.isAbsolute nested with
  | true =>
      have compiles : ∃ answer, result = .ok answer := by
        rw [innerSound.compiles_iff, Path.resolve_of_absolute absolute, ← Path.resolve_root]
        exact legal
      refine ⟨iff_of_true compiles (.inl rfl), fun error fails => ?_⟩
      rcases compiles with ⟨answer, succeeds⟩
      cases fails.symm.trans succeeds
  | false =>
      constructor
      · simp only [Bool.false_eq_true, false_or]
        exact innerSound.compiles_iff.trans (Glob.compiles_resolve_iff absolute legal _)
      · intro error fails
        have faulty : Glob.compile (Path.resolve info.matchedPath nested) = .error error :=
          Except.map_eq_error_iff.mp ((innerSound.result_matchPath _ _ _).symm.trans fails)
        have fault := (Glob.compile_eq_error_iff.mp faulty).1
        rw [Glob.segments_read_resolve absolute, Glob.declaredNames_append] at fault
        exact outerSound.exists_captured_of_spelled canonical matched
          (legal.mem_of_fault?_append fault)

/-- A captured part may begin with a colon and still spell a name that can be declared. -/
theorem compiles_nested_iff_declarable :
    ∃ answer, (Matcher.matchPath {} ":tab?" "/user/:id" "/user/:id").result =
      .ok answer := by
  have canonical : Path.Canonical "/user/:id" :=
    ⟨["user", ":id"], by decide +kernel, by decide +kernel⟩
  have matched : (Matcher.matchPath {} "/user/:name" "/user/:id" "/").result =
      .ok (some { matchedPath := "/user/:id", parameters := .ofList [("name", ":id")] }) := by
    rfl
  have condition := compiles_nested_iff sound_new sound_new canonical matched
    ⟨some { matchedPath := "/" }, (rfl : (Matcher.matchPath {} ":tab?" "/" "/").result = _)⟩
  exact condition.1.mpr (.inr (by decide +kernel))

/-- The glob that matches every path compiles anywhere but below a captured part that
looks like the declaration of a parameter with an illegal name. -/
theorem not_compiles_nested_colon :
    Path.Canonical "/:1" ∧
      (Matcher.matchPath {} "/:id" "/:1" "/").result =
        .ok (some { matchedPath := "/:1", parameters := .ofList [("id", ":1")] }) ∧
      (Matcher.matchPath {} "*" "/" "/").result = .ok (some { matchedPath := "/" }) ∧
      (Matcher.matchPath {} "*" "/:1" "/:1").result =
        .error { glob := "/:1/*", parameter := "1", culprit := "1" } :=
  ⟨⟨[":1"], by decide +kernel, by decide +kernel⟩, rfl, rfl, rfl⟩

end Matcher

end Router
