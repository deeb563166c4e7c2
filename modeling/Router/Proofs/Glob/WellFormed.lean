import Router.Proofs.Glob.Reading

namespace Router.Glob

/-! ## Well-formed globs

A glob that compiles is made of segments of which each shows its text as it stood between
two slashes, and shows nothing that this text does not say. Whatever shows itself like
that can be written down, and compiles to just what was written. -/

/-- What can be seen of a segment. -/
structure View where
  value : String
  isParameter : Bool
  name? : Option String
  isOptional : Bool

def Segment.view (segment : Segment) : View where
  value := segment.value
  isParameter := segment.isParameter
  name? := segment.name?
  isOptional := segment.isOptional

structure View.WellFormed (view : View) : Prop where
  filled : view.value ≠ ""
  unslashed : '/' ∉ view.value.toList
  opened : view.isParameter ↔ view.value.toList.head? = some ':'
  literal : view.isParameter = false → view.name? = none ∧ view.isOptional = false
  parameter : view.isParameter = true → ∃ name, view.name? = some name ∧ IsName name ∧
    view.value = ":" ++ name ++ if view.isOptional then "?" else ""

/-- All views are well-formed, and no name is seen twice. -/
def WellFormed (views : List View) : Prop :=
  (∀ view ∈ views, view.WellFormed) ∧ (views.filterMap View.name?).Nodup

theorem declaredNames_eq (segments : List Segment) :
    declaredNames segments = (segments.map Segment.view).filterMap View.name? := by
  rw [List.filterMap_map]
  rfl

/-! ### What a piece is read as -/

theorem ofPiece_of_colon {piece : String} {declaration : List Char}
    (opened : piece.toList = ':' :: declaration) :
    Segment.ofPiece piece =
      if declaration.getLast? = some '?' then
        .parameter (String.ofList declaration.dropLast) true
      else .parameter (String.ofList declaration) false := by
  unfold Segment.ofPiece
  split
  · next other characters =>
      cases opened.symm.trans characters
      rfl
  · next plain => exact absurd opened (plain declaration)

/-- Reading forgets nothing. -/
theorem value_ofPiece (piece : String) : (Segment.ofPiece piece).value = piece := by
  by_cases colon : piece.toList.head? = some ':'
  · rcases List.head?_eq_some_iff.mp colon with ⟨declaration, opened⟩
    apply String.toList_inj.mp
    rw [ofPiece_of_colon opened, opened]
    split
    · next marked =>
        rcases List.getLast?_eq_some_iff.mp marked with ⟨name, rfl⟩
        simp [Segment.value]
    · simp [Segment.value]
  · rw [ofPiece_of_not_isParameter colon]
    rfl

theorem isAlphanum_of_isName {name : String} (named : IsName name) {character : Char}
    (member : character ∈ name.toList) : character.isAlphanum := by
  rcases named with ⟨first, rest⟩
  cases characters : name.toList with
  | nil =>
      rw [characters] at member
      cases member
  | cons head tail =>
      rw [characters] at first rest member
      rcases List.mem_cons.mp member with rfl | later
      · have letter : character.isAlpha := first
        rw [Char.isAlphanum, letter, Bool.true_or]
      · exact List.all_eq_true.mp rest character later

/-- A name has no question mark at its end that could be taken for the one of an optional
parameter. -/
theorem ofPiece_declaration {name : String} (named : IsName name) (optional : Bool) :
    Segment.ofPiece (":" ++ name ++ if optional then "?" else "") =
      .parameter name optional := by
  cases optional with
  | false =>
      have opened : (":" ++ name ++ if false then "?" else "").toList = ':' :: name.toList := by
        simp
      have unmarked : name.toList.getLast? ≠ some '?' := by
        intro marked
        have alphanumeric := isAlphanum_of_isName named (List.mem_of_getLast? marked)
        cases alphanumeric
      rw [ofPiece_of_colon opened, if_neg unmarked, String.ofList_toList]
  | true =>
      have opened : (":" ++ name ++ if true then "?" else "").toList =
          ':' :: (name.toList ++ ['?']) := by
        simp
      rw [ofPiece_of_colon opened, if_pos List.getLast?_concat, List.dropLast_concat,
        String.ofList_toList]

/-! ### Segments and what is seen of them -/

theorem wellFormed_view_ofPiece {piece : String} (filled : piece ≠ "")
    (unslashed : '/' ∉ piece.toList)
    (named : ∀ name ∈ (Segment.ofPiece piece).name?, IsName name) :
    (Segment.ofPiece piece).view.WellFormed := by
  have value : (Segment.ofPiece piece).view.value = piece := value_ofPiece piece
  refine ⟨?_, ?_, ?_, ?_, ?_⟩
  · rwa [value]
  · rwa [value]
  · rw [value]
    exact isParameter_ofPiece
  · intro plain
    cases read : Segment.ofPiece piece with
    | literal text => exact ⟨rfl, rfl⟩
    | parameter name optional =>
        rw [read] at plain
        cases plain
  · intro parameter
    cases read : Segment.ofPiece piece with
    | literal text =>
        rw [read] at parameter
        cases parameter
    | parameter name optional =>
        rw [read] at named
        exact ⟨name, rfl, named name rfl, rfl⟩

/-- What is seen of a segment tells what it is. -/
theorem View.WellFormed.view_ofPiece {view : View} (wellFormed : view.WellFormed) :
    (Segment.ofPiece view.value).view = view := by
  rcases view with ⟨value, isParameter, name?, isOptional⟩
  cases isParameter with
  | false =>
      have plain : value.toList.head? ≠ some ':' := fun colon =>
        Bool.false_ne_true (wellFormed.opened.mpr colon)
      rcases wellFormed.literal rfl with ⟨nameless, required⟩
      cases nameless
      cases required
      rw [ofPiece_of_not_isParameter plain]
      rfl
  | true =>
      rcases wellFormed.parameter rfl with ⟨name, named, isName, spelled⟩
      cases named
      have text : value = ":" ++ name ++ if isOptional then "?" else "" := spelled
      subst text
      rw [ofPiece_declaration isName isOptional]
      rfl

theorem WellFormed.declarable {views : List View} (wellFormed : WellFormed views) :
    Declarable (views.filterMap View.name?) := by
  refine ⟨fun name member => ?_, wellFormed.2⟩
  rcases List.mem_filterMap.mp member with ⟨view, seen, named⟩
  have each := wellFormed.1 view seen
  cases parameter : view.isParameter with
  | false =>
      rw [(each.literal parameter).1] at named
      cases named
  | true =>
      rcases each.parameter parameter with ⟨declared, same, isName, -⟩
      cases same.symm.trans named
      exact isName

/-! ### Reading what was written -/

/-- The text that shows these values behind slashes, with the asterisk of a wildcard
last. -/
def spelling (values : List String) (wildcard : Bool) : String :=
  "/" ++ String.join (values.map (· ++ "/")) ++ if wildcard then "*" else ""

theorem write_eq (segments : List Segment) (wildcard : Bool) :
    write segments wildcard = spelling (segments.map Segment.value) wildcard := by
  rw [write, spelling, List.map_map]
  rfl

theorem spelling_eq_joined (values : List String) (wildcard : Bool) :
    spelling values wildcard =
      Path.joined (("" :: values) ++ [if wildcard then "*" else ""]) := by
  apply String.toList_inj.mp
  rw [Path.toList_joined_concat]
  simp [spelling, String.toList_join, List.flatMap_def, Function.comp_def]

/-- Each value is read as a piece of its own, and nothing else holds anything. -/
theorem read_spelling {values : List String} (filled : ∀ value ∈ values, value ≠ "")
    (unslashed : ∀ value ∈ values, '/' ∉ value.toList) (wildcard : Bool) :
    (read (spelling values wildcard)).segments = values.map Segment.ofPiece ∧
      (read (spelling values wildcard)).wildcard = wildcard := by
  have ending : '/' ∉ (if wildcard then "*" else "").toList ∧
      (read (if wildcard then "*" else "")).segments = [] ∧
      (read (if wildcard then "*" else "")).wildcard = wildcard := by
    cases wildcard <;> decide +kernel
  have legal : ∀ piece ∈ ("" :: values) ++ [if wildcard then "*" else ""],
      '/' ∉ piece.toList := by
    rw [List.forall_mem_append, List.forall_mem_cons, List.forall_mem_singleton]
    exact ⟨⟨by simp, unslashed⟩, ending.1⟩
  have kept : ("" :: values).filter (· ≠ "") = values := by
    rw [List.filter_cons_of_neg (by simp), List.filter_eq_self]
    exact fun value member => decide_eq_true (filled value member)
  rcases read_joined_concat legal with ⟨segments, closed⟩
  rw [spelling_eq_joined, segments, closed, kept, ending.2.1, ending.2.2, List.append_nil]
  exact ⟨rfl, rfl⟩

/-! ### Parameter names -/

theorem eraseDups_of_nodup {names : List String} (distinct : names.Nodup) :
    names.eraseDups = names := by
  induction names with
  | nil => rfl
  | cons name rest induction =>
      rcases List.nodup_cons.mp distinct with ⟨fresh, distinct⟩
      have kept : rest.filter (fun other => !other == name) = rest := by
        rw [List.filter_eq_self]
        intro other member
        have different : other ≠ name := fun same => fresh (same ▸ member)
        simpa using different
      rw [List.eraseDups_cons, kept, induction distinct]

/-- Where no name is declared twice there is one for each parameter. -/
theorem length_parameterNames {glob : Glob} (distinct : (declaredNames glob.segments).Nodup) :
    glob.parameterNames.length = glob.segments.countP Segment.isParameter := by
  have declares : ∀ segment : Segment, segment.name?.isSome = segment.isParameter := by
    intro segment
    cases segment <;> rfl
  rw [parameterNames, List.length_mergeSort, eraseDups_of_nodup distinct, declaredNames,
    List.length_filterMap_eq_countP]
  simp only [declares]

/-! ### Compiling and writing -/

theorem wellFormed_of_compile {source : String} {glob : Glob}
    (compiles : compile source = .ok glob) : WellFormed (glob.segments.map Segment.view) := by
  rcases compile_eq_ok_iff.mp compiles with ⟨rfl, declarable⟩
  refine ⟨fun view seen => ?_, declaredNames_eq _ ▸ declarable.2⟩
  rcases List.mem_map.mp seen with ⟨segment, member, rfl⟩
  have declared : ∀ name ∈ segment.name?, IsName name := fun name named =>
    declarable.1 name (List.mem_filterMap.mpr ⟨segment, member, named⟩)
  rw [segments_read] at member
  rcases List.mem_map.mp member with ⟨piece, kept, rfl⟩
  rcases List.mem_filter.mp kept with ⟨split, filled⟩
  exact wellFormed_view_ofPiece (of_decide_eq_true filled)
    (Path.slash_notMem_of_mem_pieces split) declared

theorem WellFormed.compile_spelling {views : List View} (wellFormed : WellFormed views)
    (wildcard : Bool) :
    let text := spelling (views.map View.value) wildcard
    let segments := (views.map View.value).map Segment.ofPiece
    segments.map Segment.view = views ∧
      compile text = .ok { source := text, segments, wildcard } := by
  intro text segments
  have filled : ∀ value ∈ views.map View.value, value ≠ "" :=
    List.forall_mem_map.mpr fun view seen => (wellFormed.1 view seen).filled
  have unslashed : ∀ value ∈ views.map View.value, '/' ∉ value.toList :=
    List.forall_mem_map.mpr fun view seen => (wellFormed.1 view seen).unslashed
  have shown : segments.map Segment.view = views := by
    rw [List.map_map, List.map_map]
    calc views.map _ = views.map id :=
          List.map_congr_left fun view seen => (wellFormed.1 view seen).view_ofPiece
      _ = views := List.map_id views
  have declarable : Declarable (declaredNames segments) := by
    rw [declaredNames_eq, shown]
    exact wellFormed.declarable
  have reads : read text = { source := text, segments, wildcard } :=
    (Glob.mk.injEq ..).mpr ⟨rfl, read_spelling filled unslashed wildcard⟩
  exact ⟨shown, compile_eq_ok_iff.mpr ⟨reads.symm, declarable⟩⟩

/-- A glob compiles to well-formed segments, which show the pieces of its text that are
not empty, one by one. Its parameter names are as many as its parameters. Whatever is
well-formed compiles from the text in which each value stands between slashes, with the
asterisk of a wildcard at the end, and is all that comes of it. -/
theorem compile_wellFormed :
    (∀ source glob, compile source = .ok glob →
      WellFormed (glob.segments.map Segment.view) ∧
      glob.segments.map Segment.value =
        (Path.pieces (unstarred source)).filter (· ≠ "") ∧
      glob.parameterNames.length = glob.segments.countP Segment.isParameter) ∧
    ∀ views wildcard, WellFormed views →
      let text := "/" ++ String.join (views.map fun view => view.value ++ "/") ++
        if wildcard then "*" else ""
      ∃ segments, segments.map Segment.view = views ∧ write segments wildcard = text ∧
        compile text = .ok { source := text, segments, wildcard } := by
  constructor
  · intro source glob compiles
    rcases compile_eq_ok_iff.mp compiles with ⟨rfl, declarable⟩
    refine ⟨wellFormed_of_compile compiles, ?_, length_parameterNames declarable.2⟩
    rw [segments_read, List.map_map]
    exact List.map_id'' value_ofPiece _
  · intro views wildcard wellFormed text
    have spelled : spelling (views.map View.value) wildcard = text := by
      rw [spelling, List.map_map]
      rfl
    rcases wellFormed.compile_spelling wildcard with ⟨shown, compiles⟩
    rw [spelled] at compiles
    refine ⟨_, shown, ?_, compiles⟩
    have values : ((views.map View.value).map Segment.ofPiece).map Segment.value =
        views.map View.value := by
      rw [List.map_map]
      exact List.map_id'' value_ofPiece _
    rw [write_eq, values, spelled]

/-- What was read from a text with slashes to spare is written with single ones, and a
literal keeps its asterisk where no wildcard follows. -/
theorem compile_wellFormed_starred :
    ∃ glob segments, compile "//a*///:id?/*" = .ok glob ∧
      segments.map Segment.view = glob.segments.map Segment.view ∧
      write segments false = "/a*/:id?/" ∧
      compile "/a*/:id?/" = .ok { source := "/a*/:id?/", segments, wildcard := false } := by
  have compiles : compile "//a*///:id?/*" = .ok (read "//a*///:id?/*") := rfl
  have wellFormed := (compile_wellFormed.1 _ _ compiles).1
  rcases compile_wellFormed.2 _ false wellFormed with ⟨segments, shown, written, compiled⟩
  exact ⟨_, segments, compiles, shown, written, compiled⟩

end Router.Glob
