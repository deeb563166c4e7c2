import Router.Proofs.Glob.Declaration
import Router.Proofs.Path.Resolution

namespace Router.Glob

/-! ## Globs read from a base

A relative glob is joined to a base before it is taken apart, so that the segments of
the base are read as segments of a glob too. They come out in front of those of the
glob itself, except that a glob without segments leaves the last place to the base, and
with it the asterisk of a wildcard. -/

/-- A text without the asterisk at its end. -/
def unstarred (text : String) : String :=
  if text.toList.getLast? == some '*' then String.ofList text.toList.dropLast else text

theorem segments_read (source : String) :
    (read source).segments =
      ((Path.pieces (unstarred source)).filter (· ≠ "")).map Segment.ofPiece := rfl

theorem isParameter_ofPiece {piece : String} :
    (Segment.ofPiece piece).isParameter ↔ piece.toList.head? = some ':' := by
  unfold Segment.ofPiece
  split
  · next declaration opened =>
      rw [opened]
      split <;> simp [Segment.isParameter]
  · next plain =>
      rw [iff_false_left (by simp [Segment.isParameter])]
      intro opened
      cases characters : piece.toList with
      | nil => rw [characters] at opened; cases opened
      | cons first rest =>
          rw [characters] at opened
          cases opened
          exact plain rest characters

theorem ofPiece_of_not_isParameter {piece : String}
    (plain : piece.toList.head? ≠ some ':') : Segment.ofPiece piece = .literal piece := by
  unfold Segment.ofPiece
  split
  · next declaration opened =>
      rw [opened] at plain
      exact absurd rfl plain
  · rfl

theorem head?_ne_colon_of_literal_mem {source text : String}
    (member : .literal text ∈ (read source).segments) : text.toList.head? ≠ some ':' := by
  rw [segments_read] at member
  rcases List.mem_map.mp member with ⟨piece, -, reads⟩
  have plain : piece.toList.head? ≠ some ':' := by
    intro colon
    have parameter := isParameter_ofPiece.mpr colon
    rw [reads] at parameter
    cases parameter
  cases (ofPiece_of_not_isParameter plain).symm.trans reads
  exact plain

/-! ### Texts made of pieces -/

/-- A slash is no asterisk, so that an empty last piece has none to offer either. -/
theorem wildcard_read_joined_concat (front : List String) (last : String) :
    (read (Path.joined (front ++ [last]))).wildcard = (read last).wildcard := by
  change ((Path.joined (front ++ [last])).toList.getLast? == some '*') =
    (last.toList.getLast? == some '*')
  rw [Path.toList_joined_concat, List.getLast?_append]
  cases last.toList.getLast? with
  | some character => rfl
  | none =>
      cases front using List.reverseRecOn with
      | nil => rfl
      | append_singleton front piece => simp

theorem unstarred_joined_concat (front : List String) (last : String) :
    unstarred (Path.joined (front ++ [last])) = Path.joined (front ++ [unstarred last]) := by
  have starred : ((Path.joined (front ++ [last])).toList.getLast? == some '*') =
      (last.toList.getLast? == some '*') := wildcard_read_joined_concat front last
  rw [unstarred, unstarred, starred]
  split
  · next ends =>
      have characters : last.toList ≠ [] := by
        intro nothing
        rw [nothing] at ends
        cases ends
      apply String.toList_inj.mp
      rw [String.toList_ofList, Path.toList_joined_concat, Path.toList_joined_concat,
        String.toList_ofList, List.dropLast_append_of_ne_nil characters]
  · rfl

theorem slash_notMem_unstarred {text : String} (unslashed : '/' ∉ text.toList) :
    '/' ∉ (unstarred text).toList := by
  unfold unstarred
  split
  · rw [String.toList_ofList]
    exact fun member => unslashed (List.dropLast_subset _ member)
  · exact unslashed

/-- A glob is taken apart into its pieces, the last of which is read like a glob of its
own. -/
theorem read_joined_concat {front : List String} {last : String}
    (unslashed : ∀ piece ∈ front ++ [last], '/' ∉ piece.toList) :
    (read (Path.joined (front ++ [last]))).segments =
        (front.filter (· ≠ "")).map Segment.ofPiece ++ (read last).segments ∧
      (read (Path.joined (front ++ [last]))).wildcard = (read last).wildcard := by
  rcases List.forall_mem_append.mp unslashed with ⟨frontUnslashed, lastUnslashed⟩
  have bodyUnslashed : '/' ∉ (unstarred last).toList :=
    slash_notMem_unstarred (lastUnslashed last (List.mem_singleton_self last))
  have pieces : Path.pieces (Path.joined (front ++ [unstarred last])) =
      front ++ [unstarred last] := by
    apply Path.pieces_joined (List.concat_ne_nil _ front)
    rw [List.forall_mem_append, List.forall_mem_singleton]
    exact ⟨frontUnslashed, bodyUnslashed⟩
  refine ⟨?_, wildcard_read_joined_concat front last⟩
  rw [segments_read, segments_read, unstarred_joined_concat, pieces,
    Path.pieces_of_slash_notMem bodyUnslashed, List.filter_append, List.map_append]

/-- In front of segments stands the empty piece before the first slash. -/
theorem read_ofSegments_concat {front : List String} {last : String}
    (legal : ∀ segment ∈ front ++ [last], Path.IsSegment segment) :
    (read (Path.ofSegments (front ++ [last]))).segments =
        front.map Segment.ofPiece ++ (read last).segments ∧
      (read (Path.ofSegments (front ++ [last]))).wildcard = (read last).wildcard := by
  have text : Path.ofSegments (front ++ [last]) = Path.joined (("" :: front) ++ [last]) := by
    cases front <;> exact Path.ofSegments_cons _ _
  have unslashed : ∀ piece ∈ ("" :: front) ++ [last], '/' ∉ piece.toList :=
    List.forall_mem_cons.mpr ⟨by simp, fun piece member => (legal piece member).2.2.2⟩
  have filled : ("" :: front).filter (· ≠ "") = front := by
    rw [List.filter_cons_of_neg (by simp), List.filter_eq_self]
    simpa using fun segment member => (legal segment (List.mem_append_left _ member)).1
  rw [text]
  rcases read_joined_concat unslashed with ⟨segments, wildcard⟩
  rw [filled] at segments
  exact ⟨segments, wildcard⟩

@[simp] theorem segments_read_root : (read "/").segments = [] := by decide +kernel

/-! ### What a base adds -/

/-- What the segments that stay of a base become when a glob is read from there. -/
def inherited (base source : String) : List Segment :=
  if Path.segments source = [] then
    (read (Path.ofSegments (Path.remaining base source))).segments
  else (Path.remaining base source).map Segment.ofPiece

theorem read_ofSegments_append {base own : List String}
    (legal : ∀ segment ∈ base ++ own, Path.IsSegment segment) (some_own : own ≠ []) :
    (read (Path.ofSegments (base ++ own))).segments =
        base.map Segment.ofPiece ++ (read (Path.ofSegments own)).segments ∧
      (read (Path.ofSegments (base ++ own))).wildcard =
        (read (Path.ofSegments own)).wildcard := by
  cases own using List.reverseRecOn with
  | nil => exact absurd rfl some_own
  | append_singleton front last =>
      rcases read_ofSegments_concat fun segment member =>
        legal segment (List.mem_append_right base member) with ⟨ownSegments, ownWildcard⟩
      rw [← List.append_assoc] at legal ⊢
      rcases read_ofSegments_concat legal with ⟨allSegments, allWildcard⟩
      rw [allSegments, ownSegments, allWildcard, ownWildcard, List.map_append,
        List.append_assoc]
      exact ⟨rfl, rfl⟩

theorem isSegment_of_mem_resolved {base source segment : String}
    (member : segment ∈ Path.remaining base source ++ Path.segments source) :
    Path.IsSegment segment := by
  rcases List.mem_append.mp member with member | member
  · exact Path.isSegment_of_mem_remaining member
  · exact Path.isSegment_of_mem_segments member

/-- Read from a base, a relative glob has the segments that it has when read from the
root, behind those that the base adds. -/
theorem segments_read_resolve {source : String}
    (relative : Path.isAbsolute source = false) (base : String) :
    (read (Path.resolve base source)).segments =
      inherited base source ++ (read (Path.resolve "/" source)).segments := by
  rw [Path.resolve_of_relative relative, Path.resolve_root, inherited]
  by_cases none : Path.segments source = []
  · rw [none, List.append_nil, Path.ofSegments_nil, segments_read_root, if_pos rfl,
      List.append_nil]
  · rw [if_neg none]
    exact (read_ofSegments_append (fun segment => isSegment_of_mem_resolved) none).1

theorem wildcard_read_resolve {source : String}
    (relative : Path.isAbsolute source = false) (named : Path.segments source ≠ [])
    (base : String) :
    (read (Path.resolve base source)).wildcard =
      (read (Path.resolve "/" source)).wildcard := by
  rw [Path.resolve_of_relative relative, Path.resolve_root]
  exact (read_ofSegments_append (fun segment => isSegment_of_mem_resolved) named).2

/-- A relative glob that compiles at the root compiles below a base exactly if the names
that the base spells can be declared along with those of the glob. -/
theorem compiles_resolve_iff {source : String} (relative : Path.isAbsolute source = false)
    (atRoot : Declarable (declaredNames (read (Path.resolve "/" source)).segments))
    (base : String) :
    Declarable (declaredNames (read (Path.resolve base source)).segments) ↔
      Declarable (declaredNames (inherited base source)) ∧
        ∀ name ∈ declaredNames (inherited base source),
          name ∉ declaredNames (read (Path.resolve "/" source)).segments := by
  rw [segments_read_resolve relative, declaredNames_append, declarable_append]
  exact and_congr_right fun _ => and_iff_right atRoot

theorem head?_of_head?_unstarred {text : String} {character : Char}
    (first : (unstarred text).toList.head? = some character) :
    text.toList.head? = some character := by
  unfold unstarred at first
  split at first
  · rw [String.toList_ofList] at first
    rcases List.dropLast_prefix text.toList with ⟨last, whole⟩
    rw [← whole, List.head?_append, first, Option.some_or]
  · exact first

/-- Whether a text declares the name where it stands as a segment of a glob, be it with
the asterisk of a wildcard at its end. -/
def Spells (text name : String) : Prop :=
  (Segment.ofPiece text).name? = some name ∨
    (Segment.ofPiece (unstarred text)).name? = some name

theorem isParameter_of_name? {segment : Segment} {name : String}
    (named : segment.name? = some name) : segment.isParameter := by
  cases segment with
  | literal text => cases named
  | parameter => rfl

theorem Spells.colon {text name : String} (spells : Spells text name) :
    text.toList.head? = some ':' := by
  rcases spells with named | named
  · exact isParameter_ofPiece.mp (isParameter_of_name? named)
  · exact head?_of_head?_unstarred (isParameter_ofPiece.mp (isParameter_of_name? named))

/-- A base adds only names that its own segments spell. -/
theorem exists_spells_of_mem_inherited {base source name : String}
    (member : name ∈ declaredNames (inherited base source)) :
    ∃ text ∈ Path.segments base, Spells text name := by
  have staying : ∀ text ∈ Path.remaining base source, text ∈ Path.segments base :=
    fun text => List.mem_of_mem_take
  have legal : ∀ text ∈ Path.remaining base source, Path.IsSegment text :=
    fun text => Path.isSegment_of_mem_remaining
  rcases List.mem_filterMap.mp member with ⟨segment, added, named⟩
  unfold inherited at added
  generalize Path.remaining base source = texts at added staying legal
  split at added
  · cases texts using List.reverseRecOn with
    | nil =>
        rw [Path.ofSegments_nil, segments_read_root] at added
        cases added
    | append_singleton front last =>
        rw [(read_ofSegments_concat legal).1, List.mem_append] at added
        have lastUnslashed := slash_notMem_unstarred (legal last (by simp)).2.2.2
        rcases added with added | added
        · rcases List.mem_map.mp added with ⟨text, stays, rfl⟩
          exact ⟨text, staying text (List.mem_append_left [last] stays), .inl named⟩
        · rw [segments_read, Path.pieces_of_slash_notMem lastUnslashed] at added
          rcases List.mem_map.mp added with ⟨text, kept, rfl⟩
          rw [List.mem_singleton.mp (List.mem_filter.mp kept).1] at named
          exact ⟨last, staying last (by simp), .inr named⟩
  · rcases List.mem_map.mp added with ⟨text, stays, rfl⟩
    exact ⟨text, staying text stays, .inl named⟩

end Router.Glob
