import Router.Proofs.Matcher.Slot
import Router.Proofs.Glob.Reading
import Router.Proofs.Path.Survival

namespace Router

/-! ## Direct compilation

A glob can be compiled as it is written or handed to a matcher, which normalizes it first.
As long as it holds no dots this takes away nothing but slashes. They are of no account
to a glob, except that an asterisk in front of them becomes the last character of the
text. -/

namespace Path

/-- Where no piece is a dot or two, only empty pieces are dropped. -/
theorem segments_eq_filled {text : String}
    (level : ∀ piece ∈ pieces text, piece ≠ "." ∧ piece ≠ "..") :
    segments text = (pieces text).filter (· ≠ "") := by
  have stepped : steps (pieces text) = (pieces text).filter (· ≠ "") := by
    apply List.filter_congr
    intro piece member
    simp [IsStep, (level piece member).1]
  have legal : ∀ piece ∈ (pieces text).filter (· ≠ ""), IsSegment piece := by
    intro piece kept
    rcases List.mem_filter.mp kept with ⟨member, filled⟩
    exact ⟨of_decide_eq_true filled, (level piece member).1, (level piece member).2,
      slash_notMem_of_mem_pieces member⟩
  rw [segments, ← reduce_steps, stepped, reduce_of_isSegment legal]

end Path

namespace Glob

/-- Whether the last of the names ends in an asterisk. -/
def Starred (names : List String) : Prop :=
  ∃ last ∈ names.getLast?, last.toList.getLast? = some '*'

instance (names : List String) : Decidable (Starred names) :=
  inferInstanceAs (Decidable (∃ last ∈ names.getLast?, last.toList.getLast? = some '*'))

theorem not_starred_nil : ¬Starred [] := by
  intro starred
  rcases starred with ⟨last, none, -⟩
  cases none

theorem starred_concat {front : List String} {last : String} :
    Starred (front ++ [last]) ↔ last.toList.getLast? = some '*' := by
  rw [Starred, List.getLast?_concat]
  simp only [Option.mem_def, Option.some_inj, exists_eq_left']

/-- Whether an asterisk ends the last piece of a text that holds anything, but not the
text. -/
def HidesAsterisk (source : String) : Prop :=
  source.toList.getLast? = some '/' ∧ Starred ((Path.pieces source).filter (· ≠ ""))

instance (source : String) : Decidable (HidesAsterisk source) :=
  inferInstanceAs (Decidable (_ ∧ _))

/-- Behind the slash at the end stands an empty piece. -/
theorem hidesAsterisk_iff {source last : String} {front : List String}
    (split : Path.pieces source = front ++ [last]) :
    HidesAsterisk source ↔ last = "" ∧ Starred (front.filter (· ≠ "")) := by
  have text : source.toList =
      (front.map fun piece => piece.toList ++ ['/']).flatten ++ last.toList := by
    rw [← Path.toList_joined_concat, ← split, Path.joined_pieces]
  by_cases empty : last = ""
  · subst empty
    have filled : (front ++ [""]).filter (· ≠ "") = front.filter (· ≠ "") := by simp
    rw [HidesAsterisk, split, filled, and_iff_right rfl, and_iff_right_iff_imp]
    intro starred
    rw [text]
    cases front using List.reverseRecOn with
    | nil => exact absurd starred not_starred_nil
    | append_singleton front piece => simp
  · refine iff_of_false (fun hidden => ?_) fun hidden => empty hidden.1
    have slash := hidden.1
    have characters : last.toList ≠ [] := fun none => empty (String.toList_eq_nil_iff.mp none)
    have member : last ∈ Path.pieces source := split ▸ List.mem_append_right _ (by simp)
    rw [text, List.getLast?_append, List.getLast?_eq_some_getLast characters,
      Option.some_or] at slash
    exact Path.slash_notMem_of_mem_pieces member
      (Option.some_inj.mp slash ▸ List.getLast_mem characters)

/-! ### What segments are read as -/

section

variable {names : List String} (legal : ∀ name ∈ names, Path.IsSegment name)

include legal

theorem read_ofSegments_of_not_starred (starless : ¬Starred names) :
    (read (Path.ofSegments names)).segments = names.map Segment.ofPiece ∧
      (read (Path.ofSegments names)).wildcard = false := by
  cases names using List.reverseRecOn with
  | nil => decide +kernel
  | append_singleton names last =>
      rw [starred_concat] at starless
      have lastLegal : Path.IsSegment last := legal last (by simp)
      have whole : unstarred last = last := by
        rw [unstarred, if_neg (by simpa using starless)]
      have alone : (read last).segments = [Segment.ofPiece last] := by
        rw [segments_read, whole, Path.pieces_of_slash_notMem lastLegal.2.2.2,
          List.filter_cons_of_pos (by simpa using lastLegal.1)]
        rfl
      rcases read_ofSegments_concat legal with ⟨segments, wildcard⟩
      rw [segments, wildcard, alone, List.map_append]
      exact ⟨rfl, beq_false_of_ne starless⟩

theorem wildcard_read_ofSegments_of_starred (starred : Starred names) :
    (read (Path.ofSegments names)).wildcard = true := by
  cases names using List.reverseRecOn with
  | nil => exact absurd starred not_starred_nil
  | append_singleton names last =>
      rw [(read_ofSegments_concat legal).2]
      exact beq_iff_eq.mpr (starred_concat.mp starred)

end

/-- The empty piece behind a slash at the end is no segment, and takes no asterisk from the
segment in front of it. -/
theorem read_resolve_root {source : String}
    (level : ∀ piece ∈ Path.pieces source, piece ≠ "." ∧ piece ≠ "..") :
    (¬HidesAsterisk source →
      (read (Path.resolve "/" source)).segments = (read source).segments ∧
        (read (Path.resolve "/" source)).wildcard = (read source).wildcard) ∧
    (HidesAsterisk source →
      (read source).wildcard = false ∧
        (read (Path.resolve "/" source)).wildcard = true) := by
  rcases Path.exists_pieces_concat source with ⟨front, last, split⟩
  have legal : ∀ piece ∈ (Path.pieces source).filter (· ≠ ""), Path.IsSegment piece := by
    rw [← Path.segments_eq_filled level]
    exact fun _ => Path.isSegment_of_mem_segments
  have unslashed : ∀ piece ∈ front ++ [last], '/' ∉ piece.toList :=
    split ▸ fun _ => Path.slash_notMem_of_mem_pieces
  have direct := read_joined_concat unslashed
  rw [← split, Path.joined_pieces] at direct
  rw [Path.resolve_root, Path.segments_eq_filled level, hidesAsterisk_iff split, direct.1,
    direct.2]
  rw [split, List.filter_append] at legal ⊢
  by_cases empty : last = ""
  · subst empty
    have nothing : (read "").segments = [] ∧ (read "").wildcard = false := by decide +kernel
    have dropped : [""].filter (· ≠ "") = [] := by decide
    rw [dropped, List.append_nil] at legal ⊢
    rw [nothing.1, nothing.2, List.append_nil, and_iff_right rfl]
    exact ⟨read_ofSegments_of_not_starred legal,
      fun starred => ⟨rfl, wildcard_read_ofSegments_of_starred legal starred⟩⟩
  · have kept : [last].filter (· ≠ "") = [last] := by simp [empty]
    rw [kept] at legal ⊢
    exact ⟨fun _ => read_ofSegments_concat legal, fun hidden => absurd hidden.1 empty⟩

/-! ### What is compiled -/

theorem compile_of_same_read {left right : String}
    (segments : (read right).segments = (read left).segments)
    (wildcard : (read right).wildcard = (read left).wildcard) :
    (∃ glob other, compile left = .ok glob ∧ compile right = .ok other ∧
      glob.segments = other.segments ∧ glob.wildcard = other.wildcard) ∨
    ∃ parameter culprit, compile left = .error { glob := left, parameter, culprit } ∧
      compile right = .error { glob := right, parameter, culprit } := by
  cases fault : fault? [] (declaredNames (read left).segments) with
  | none =>
      have declarable := fault?_nil_eq_none_iff.mp fault
      exact .inl ⟨read left, read right, compile_eq_ok_iff.mpr ⟨rfl, declarable⟩,
        compile_eq_ok_iff.mpr ⟨rfl, segments ▸ declarable⟩, segments.symm, wildcard.symm⟩
  | some blamed =>
      rcases blamed with ⟨parameter, culprit⟩
      exact .inr ⟨parameter, culprit, compile_eq_error_iff.mpr ⟨fault, rfl⟩,
        compile_eq_error_iff.mpr ⟨segments ▸ fault, rfl⟩⟩

theorem matchPath?_of_same {left right : Glob} (segments : left.segments = right.segments)
    (wildcard : left.wildcard = right.wildcard) (path : String) :
    left.matchPath? path = right.matchPath? path := by
  rw [matchPath?, matchPath?, segments, wildcard]

end Glob

/-- As long as a glob holds no dots and hides no asterisk, it comes to the same whether it
is compiled as it is or in normal form. Both ways lead to the same segments with or
without a wildcard, or the same name is refused for the same reason; and so a matcher
finds in a path what the glob itself does. If an asterisk is hidden, what compiles both
ways has a wildcard in normal form alone. -/
theorem Matcher.direct_compilation_agrees {source : String}
    (level : ∀ piece ∈ Path.pieces source, piece ≠ "." ∧ piece ≠ "..") :
    let normal := Path.resolve "/" source
    (¬Glob.HidesAsterisk source →
      ((∃ glob other, Glob.compile source = .ok glob ∧ Glob.compile normal = .ok other ∧
          glob.segments = other.segments ∧ glob.wildcard = other.wildcard) ∨
        ∃ parameter culprit,
          Glob.compile source = .error { glob := source, parameter, culprit } ∧
          Glob.compile normal = .error { glob := normal, parameter, culprit }) ∧
      ∀ matcher : Matcher, matcher.Sound → ∀ path,
        (∃ glob, Glob.compile source = .ok glob ∧
          (matcher.matchPath source path "/").result = .ok (glob.matchPath? path)) ∨
        ∃ parameter culprit,
          Glob.compile source = .error { glob := source, parameter, culprit } ∧
          (matcher.matchPath source path "/").result =
            .error { glob := normal, parameter, culprit }) ∧
    (Glob.HidesAsterisk source → ∀ glob other,
      Glob.compile source = .ok glob → Glob.compile normal = .ok other →
        glob.wildcard ≠ other.wildcard) := by
  intro normal
  have reads := Glob.read_resolve_root level
  constructor
  · intro shown
    have compiled := Glob.compile_of_same_read (reads.1 shown).1 (reads.1 shown).2
    refine ⟨compiled, fun matcher sound path => ?_⟩
    rw [sound.result_matchPath]
    rcases compiled with ⟨glob, other, direct, resolved, segments, wildcard⟩ |
      ⟨parameter, culprit, direct, resolved⟩
    · refine .inl ⟨glob, direct, ?_⟩
      rw [resolved, Glob.matchPath?_of_same segments wildcard]
      rfl
    · refine .inr ⟨parameter, culprit, direct, ?_⟩
      rw [resolved]
      rfl
  · intro hidden glob other direct resolved
    rcases Glob.compile_eq_ok_iff.mp direct with ⟨rfl, -⟩
    rcases Glob.compile_eq_ok_iff.mp resolved with ⟨rfl, -⟩
    rw [(reads.2 hidden).1, (reads.2 hidden).2]
    exact Bool.false_ne_true

/-- Slashes to spare make no difference, be it that a glob is matched or that a name in it
is refused, unless they hide an asterisk. -/
theorem Matcher.direct_compilation_agrees_slashed :
    (∃ glob, Glob.compile "shop//:id?///*" = .ok glob ∧
      (Matcher.matchPath {} "shop//:id?///*" "/shop/7/x" "/").result =
        .ok (glob.matchPath? "/shop/7/x")) ∧
    (Glob.compile "shop//:id/:i-d//" =
        .error { glob := "shop//:id/:i-d//", parameter := "i-d", culprit := "-" } ∧
      (Matcher.matchPath {} "shop//:id/:i-d//" "/shop/7/8" "/").result =
        .error { glob := "/shop/:id/:i-d", parameter := "i-d", culprit := "-" }) ∧
    (Glob.read "/foo*/").wildcard ≠ (Glob.read "/foo*").wildcard := by
  have level : ∀ piece ∈ Path.pieces "shop//:id?///*", piece ≠ "." ∧ piece ≠ ".." := by
    decide +kernel
  have refusedLevel : ∀ piece ∈ Path.pieces "shop//:id/:i-d//", piece ≠ "." ∧ piece ≠ ".." := by
    decide +kernel
  have starredLevel : ∀ piece ∈ Path.pieces "/foo*/", piece ≠ "." ∧ piece ≠ ".." := by
    decide +kernel
  have normal : Path.resolve "/" "/foo*/" = "/foo*" := by decide +kernel
  refine ⟨?_, ?_, ?_⟩
  · have shown : ¬Glob.HidesAsterisk "shop//:id?///*" := by decide +kernel
    rcases ((direct_compilation_agrees level).1 shown).2 {} sound_new "/shop/7/x" with
      same | ⟨parameter, culprit, refused, -⟩
    · exact same
    · cases refused
  · have shown : ¬Glob.HidesAsterisk "shop//:id/:i-d//" := by decide +kernel
    have direct : Glob.compile "shop//:id/:i-d//" =
        .error { glob := "shop//:id/:i-d//", parameter := "i-d", culprit := "-" } := by
      decide +kernel
    have resolved : Path.resolve "/" "shop//:id/:i-d//" = "/shop/:id/:i-d" := by decide +kernel
    rcases ((direct_compilation_agrees refusedLevel).1 shown).2 {} sound_new "/shop/7/8" with
      ⟨glob, compiles, -⟩ | ⟨parameter, culprit, refused, answered⟩
    · rw [direct] at compiles
      cases compiles
    · rw [direct] at refused
      cases refused
      rw [resolved] at answered
      exact ⟨direct, answered⟩
  · have hidden : Glob.HidesAsterisk "/foo*/" := by decide +kernel
    have resolved : Glob.compile (Path.resolve "/" "/foo*/") = .ok (Glob.read "/foo*") := by
      rw [normal]
      rfl
    exact (direct_compilation_agrees starredLevel).2 hidden _ _ rfl resolved

end Router
