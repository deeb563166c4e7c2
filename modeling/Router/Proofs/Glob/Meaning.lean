import Mathlib.Data.List.Forall2
import Router.Proofs.Glob.Admission
import Router.Proofs.Glob.Walk
import Router.Proofs.Glob.WellFormed

namespace Router.Glob

/-! ## Globs that mean the same

Two compiled globs match all paths alike only if they show the same literals and declare
the same parameters one by one, with the same wildcard. Of the marks that make parameters
optional, those in front of a required segment say nothing; all others do. Every
difference is brought to light by a path made of what one of the globs shows. -/

/-- The same literal, or parameters of the same name. -/
inductive Segment.Same : Segment → Segment → Prop
  | literal (text : String) : Same (.literal text) (.literal text)
  | parameter (name : String) (left right : Bool) :
      Same (.parameter name left) (.parameter name right)

structure Alike (left right : Glob) : Prop where
  wildcard : left.wildcard = right.wildcard
  segments : List.Forall₂ Segment.Same left.segments right.segments
  dispensable : ∀ position, Dispensable (left.segments.drop position) ↔
    Dispensable (right.segments.drop position)

/-! ### Globs that are alike match alike -/

theorem Segment.Same.symm {left right : Segment} (same : left.Same right) :
    right.Same left := by
  cases same with
  | literal text => exact .literal text
  | parameter name leftOptional rightOptional =>
      exact .parameter name rightOptional leftOptional

theorem Segment.Same.admits {left right : Segment} (same : left.Same right) {part : String}
    (admits : left.Admits part) : right.Admits part := by
  cases same <;> exact admits

theorem Segment.Same.name? {left right : Segment} (same : left.Same right) :
    left.name? = right.name? := by
  cases same <;> rfl

theorem same_of_getElem? {left right : List Segment}
    (same : List.Forall₂ Segment.Same left right) {position : Nat} {segment other : Segment}
    (there : left[position]? = some segment) (otherThere : right[position]? = some other) :
    segment.Same other := by
  apply (List.forall₂_iff_zip.mp same).2
  exact List.mem_iff_getElem?.mpr
    ⟨position, List.getElem?_zip_eq_some.mpr ⟨there, otherThere⟩⟩

theorem captures_of_same {left right : List Segment}
    (same : List.Forall₂ Segment.Same left right) (parts : List String) :
    captures left parts = captures right parts := by
  induction same generalizing parts with
  | nil => rfl
  | cons first _ induction =>
      cases parts with
      | nil => rfl
      | cons part parts =>
          have rest := induction parts
          simp only [captures] at rest
          simp only [captures, List.zip_cons_cons, List.filterMap_cons, first.name?, rest]

namespace Alike

variable {left right : Glob}

theorem symm (alike : left.Alike right) : right.Alike left where
  wildcard := alike.wildcard.symm
  segments := alike.segments.flip.imp fun _ _ => Segment.Same.symm
  dispensable := fun position => (alike.dispensable position).symm

theorem admits (alike : left.Alike right) {parts : List String}
    (admits : Admits left.wildcard left.segments parts) :
    Admits right.wildcard right.segments parts := by
  refine ⟨?_, (alike.dispensable _).mp admits.dispensable, ?_⟩
  · rw [← alike.segments.length_eq, ← alike.wildcard]
    exact admits.enough
  · intro position segment part there partThere
    have within : position < left.segments.length := by
      rw [alike.segments.length_eq]
      exact (List.getElem?_eq_some_iff.mp there).1
    have same := same_of_getElem? alike.segments (List.getElem?_eq_getElem within) there
    exact same.admits (admits.each position _ part (List.getElem?_eq_getElem within) partThere)

theorem matchPath?_eq (alike : left.Alike right) (path : String) :
    left.matchPath? path = right.matchPath? path := by
  have found : ∀ capture, matchParts? left.wildcard left.segments (Path.parts path) =
      some capture ↔
        matchParts? right.wildcard right.segments (Path.parts path) = some capture := by
    intro capture
    have admitted : admitted left.segments (Path.parts path) =
        admitted right.segments (Path.parts path) := by
      rw [Glob.admitted, Glob.admitted, captures_of_same alike.segments,
        alike.segments.length_eq]
    rw [matchParts?_eq_some_iff_admits, matchParts?_eq_some_iff_admits, admitted]
    exact and_congr_left fun _ => ⟨alike.admits, alike.symm.admits⟩
  rw [matchPath?, matchPath?, Option.ext found]

end Alike

/-! ### Samples -/

/-- A text that may stand in a path, between two slashes. -/
def IsPart (part : String) : Prop :=
  part ≠ "" ∧ '/' ∉ part.toList

/-- What is known of the literals of a compiled glob: they may stand in a path, and do not
open like a parameter. -/
def Plain (segments : List Segment) : Prop :=
  ∀ text, .literal text ∈ segments → IsPart text ∧ text.toList.head? ≠ some ':'

theorem plain_of_compile {source : String} {glob : Glob}
    (compiles : compile source = .ok glob) : Plain glob.segments := by
  intro text member
  have seen := (wellFormed_of_compile compiles).1 _ (List.mem_map_of_mem member)
  refine ⟨⟨seen.filled, seen.unslashed⟩, fun colon => ?_⟩
  cases seen.opened.mpr colon

/-- A text that stands out from all literals, and from the marks of other positions. -/
def mark (position : Nat) : String :=
  String.ofList (List.replicate (position + 1) ':')

theorem isPart_mark (position : Nat) : IsPart (mark position) := by
  constructor
  · intro empty
    have characters := String.toList_eq_nil_iff.mpr empty
    simp [mark] at characters
  · simp [mark]

theorem mark_injective {position other : Nat} (same : mark position = mark other) :
    position = other := by
  have lengths := congrArg (fun text => text.toList.length) same
  simpa [mark] using lengths

theorem Plain.ne_mark {segments : List Segment} (plain : Plain segments) {text : String}
    (member : .literal text ∈ segments) (position : Nat) : text ≠ mark position := by
  rintro rfl
  exact (plain _ member).2 (by simp [mark, List.replicate_succ])

/-- A part that a segment takes up. -/
def Segment.sample (position : Nat) : Segment → String
  | .literal text => text
  | .parameter _ _ => mark position

def samples (segments : List Segment) : List String :=
  segments.mapIdx Segment.sample

example : samples [.literal "a", .parameter "b" false, .parameter "c" true] =
    ["a", "::", ":::"] := by decide +kernel

@[simp] theorem length_samples (segments : List Segment) :
    (samples segments).length = segments.length :=
  List.length_mapIdx

theorem getElem?_samples (segments : List Segment) (position : Nat) :
    (samples segments)[position]? = segments[position]?.map (Segment.sample position) :=
  List.getElem?_mapIdx

/-- A mark shows at its own position only. -/
theorem Plain.position_of_mark {segments : List Segment} (plain : Plain segments)
    {position other : Nat} (there : (samples segments)[position]? = some (mark other)) :
    position = other := by
  rw [getElem?_samples, Option.map_eq_some_iff] at there
  rcases there with ⟨segment, segmentThere, shown⟩
  cases segment with
  | literal text =>
      exact absurd shown (plain.ne_mark (List.mem_of_getElem? segmentThere) other)
  | parameter name optional => exact mark_injective shown

theorem Segment.admits_sample (segment : Segment) (position : Nat) :
    segment.Admits (segment.sample position) := by
  cases segment with
  | literal text => rfl
  | parameter name optional => exact (isPart_mark position).1

theorem each_samples {segments : List Segment} {position : Nat} {segment : Segment}
    {part : String} (there : segments[position]? = some segment)
    (partThere : (samples segments)[position]? = some part) : segment.Admits part := by
  rw [getElem?_samples, there, Option.map_some, Option.some_inj] at partThere
  rw [← partThere]
  exact segment.admits_sample position

theorem Plain.isPart_of_mem_samples {segments : List Segment} (plain : Plain segments)
    {part : String} (member : part ∈ samples segments) : IsPart part := by
  rcases List.mem_mapIdx.mp member with ⟨position, within, rfl⟩
  cases segment : segments[position] with
  | literal text => exact (plain text (segment ▸ List.getElem_mem within)).1
  | parameter name optional => exact isPart_mark position

theorem admits_samples (wildcard : Bool) (segments : List Segment) :
    Admits wildcard segments (samples segments) := by
  refine ⟨.inl (by simp), ?_, fun _ _ _ => each_samples⟩
  rw [length_samples, List.drop_length]
  exact fun _ member => (nomatch member)

/-- One part too many needs a wildcard. -/
theorem admits_samples_concat (segments : List Segment) (part : String) :
    Admits true segments (samples segments ++ [part]) := by
  refine ⟨.inr rfl, ?_, fun position segment other there otherThere => ?_⟩
  · rw [List.drop_eq_nil_of_le (by simp)]
    exact fun _ member => (nomatch member)
  · have within : position < (samples segments).length := by
      rw [length_samples]
      exact (List.getElem?_eq_some_iff.mp there).1
    rw [List.getElem?_append_left within] at otherThere
    exact each_samples there otherThere

/-- Some parts too few need optional segments. -/
theorem admits_samples_take {wildcard : Bool} {segments : List Segment} {count : Nat}
    (dispensable : Dispensable (segments.drop count)) :
    Admits wildcard segments ((samples segments).take count) := by
  have length : ((samples segments).take count).length = min count segments.length := by
    rw [List.length_take, length_samples]
  refine ⟨.inl (length ▸ Nat.min_le_right _ _), ?_,
    fun position segment part there partThere => ?_⟩
  · rwa [length, ← List.drop_eq_drop_min]
  · rw [List.getElem?_take] at partThere
    split at partThere
    · exact each_samples there partThere
    · cases partThere

/-! ### Telling globs apart -/

theorem ofSegments_injective {left right : List String} (leftLegal : ∀ part ∈ left, IsPart part)
    (rightLegal : ∀ part ∈ right, IsPart part)
    (same : Path.ofSegments left = Path.ofSegments right) : left = right := by
  have leftParts := Path.parts_ofSegments_of_filled (fun part member => (leftLegal part member).1)
    fun part member => (leftLegal part member).2
  rw [← leftParts, same]
  exact Path.parts_ofSegments_of_filled (fun part member => (rightLegal part member).1)
    fun part member => (rightLegal part member).2

theorem matchPath?_ofSegments_eq_some_iff {glob : Glob} {parts : List String}
    (legal : ∀ part ∈ parts, IsPart part) {info : RouteInfo} :
    glob.matchPath? (Path.ofSegments parts) = some info ↔
      Admits glob.wildcard glob.segments parts ∧
        info = (admitted glob.segments parts).info := by
  rw [matchPath?, Path.parts_ofSegments_of_filled (fun part member => (legal part member).1)
    fun part member => (legal part member).2]
  simp only [Option.map_eq_some_iff, matchParts?_eq_some_iff_admits]
  constructor
  · rintro ⟨_, ⟨admits, rfl⟩, rfl⟩
    exact ⟨admits, rfl⟩
  · rintro ⟨admits, rfl⟩
    exact ⟨_, ⟨admits, rfl⟩, rfl⟩

theorem isSome_matchPath?_ofSegments {glob : Glob} {parts : List String}
    (legal : ∀ part ∈ parts, IsPart part) :
    (glob.matchPath? (Path.ofSegments parts)).isSome ↔
      Admits glob.wildcard glob.segments parts := by
  rw [isSome_matchPath?_iff, Path.parts_ofSegments_of_filled
    (fun part member => (legal part member).1) fun part member => (legal part member).2]

theorem toList_parameters {glob : Glob} {parts : List String}
    (distinct : (declaredNames glob.segments).Nodup)
    (admits : Admits glob.wildcard glob.segments parts) :
    (admitted glob.segments parts).info.parameters.toList = captures glob.segments parts := by
  have found := matchParts?_eq_some_iff_admits.mpr ⟨admits, rfl⟩
  exact Bindings.toList_ofList (nodup_captured_of_matchParts? found distinct)

/-- What two globs have in common that cannot be told apart by the given parts. -/
structure Agree (left right : Glob) (parts : List String) : Prop where
  admits : Admits left.wildcard left.segments parts ↔
    Admits right.wildcard right.segments parts
  consumed : Admits left.wildcard left.segments parts →
    parts.take left.segments.length = parts.take right.segments.length

theorem Agree.symm {left right : Glob} {parts : List String}
    (agree : Agree left right parts) : Agree right left parts :=
  ⟨agree.admits.symm, fun admits => (agree.consumed (agree.admits.mpr admits)).symm⟩

section

variable {left right : Glob} {parts : List String}

theorem agrees_of_sameOutcome {info other : RouteInfo} {outcome : Option RouteInfo}
    (same : RouteInfo.sameOutcome (some info) outcome) (found : outcome = some other) :
    info.matchedPath = other.matchedPath ∧ info.parameters.agrees other.parameters := by
  subst found
  simpa [RouteInfo.sameOutcome, RouteInfo.agrees] using same

theorem isSome_of_sameOutcome {outcome other : Option RouteInfo}
    (same : RouteInfo.sameOutcome outcome other) : outcome.isSome = other.isSome := by
  cases outcome with
  | none =>
      cases other with
      | none => rfl
      | some info => cases same
  | some info =>
      cases other with
      | none => cases same
      | some info => rfl

theorem agree_of_sameOutcome (legal : ∀ part ∈ parts, IsPart part)
    (same : RouteInfo.sameOutcome (left.matchPath? (Path.ofSegments parts))
      (right.matchPath? (Path.ofSegments parts))) : Agree left right parts := by
  have taken : ∀ count, ∀ part ∈ parts.take count, IsPart part :=
    fun _ part member => legal part (List.mem_of_mem_take member)
  have admits : Admits left.wildcard left.segments parts ↔
      Admits right.wildcard right.segments parts := by
    rw [← isSome_matchPath?_ofSegments legal, isSome_of_sameOutcome same]
    exact isSome_matchPath?_ofSegments legal
  refine ⟨admits, fun leftAdmits => ofSegments_injective (taken _) (taken _) ?_⟩
  have leftFound := (matchPath?_ofSegments_eq_some_iff legal).mpr ⟨leftAdmits, rfl⟩
  have rightFound := (matchPath?_ofSegments_eq_some_iff legal).mpr ⟨admits.mp leftAdmits, rfl⟩
  rw [leftFound] at same
  exact (agrees_of_sameOutcome same rightFound).1

theorem captures_subset_of_sameOutcome (leftDistinct : (declaredNames left.segments).Nodup)
    (rightDistinct : (declaredNames right.segments).Nodup)
    (legal : ∀ part ∈ parts, IsPart part)
    (same : RouteInfo.sameOutcome (left.matchPath? (Path.ofSegments parts))
      (right.matchPath? (Path.ofSegments parts)))
    (leftAdmits : Admits left.wildcard left.segments parts) :
    captures left.segments parts ⊆ captures right.segments parts := by
  have rightAdmits := (agree_of_sameOutcome legal same).admits.mp leftAdmits
  have leftFound := (matchPath?_ofSegments_eq_some_iff legal).mpr ⟨leftAdmits, rfl⟩
  have rightFound := (matchPath?_ofSegments_eq_some_iff legal).mpr ⟨rightAdmits, rfl⟩
  rw [leftFound] at same
  have agree := (agrees_of_sameOutcome same rightFound).2
  intro entry member
  rw [← toList_parameters leftDistinct leftAdmits] at member
  rw [← toList_parameters rightDistinct rightAdmits]
  exact Bindings.mem_of_agrees agree member

/-! The samples of either glob show how far they agree. -/

variable (agree : ∀ parts, (∀ part ∈ parts, IsPart part) → Agree left right parts)

include agree

theorem length_le_of_agree (plain : Plain right.segments) :
    right.segments.length ≤ left.segments.length := by
  have sampled := agree (samples right.segments) fun _ => plain.isPart_of_mem_samples
  have consumed := sampled.consumed (sampled.admits.mpr (admits_samples _ _))
  have lengths := congrArg List.length consumed
  simp only [List.length_take, length_samples, Nat.min_self] at lengths
  omega

theorem wildcard_of_agree (plain : Plain left.segments)
    (longer : right.segments.length ≤ left.segments.length) (wildcard : left.wildcard) :
    right.wildcard := by
  have legal : ∀ part ∈ samples left.segments ++ [mark 0], IsPart part := by
    rw [List.forall_mem_append, List.forall_mem_singleton]
    exact ⟨fun _ => plain.isPart_of_mem_samples, isPart_mark 0⟩
  have leftAdmits := admits_samples_concat left.segments (mark 0)
  rw [← wildcard] at leftAdmits
  have enough := ((agree _ legal).admits.mp leftAdmits).enough
  rw [List.length_append, length_samples, List.length_singleton] at enough
  exact enough.resolve_left (by omega)

theorem dispensable_of_agree (plain : Plain left.segments)
    (length : left.segments.length = right.segments.length) {position : Nat}
    (dispensable : Dispensable (left.segments.drop position)) :
    Dispensable (right.segments.drop position) := by
  have legal : ∀ part ∈ (samples left.segments).take position, IsPart part :=
    fun _ member => plain.isPart_of_mem_samples (List.mem_of_mem_take member)
  have rightAdmits := (agree _ legal).admits.mp (admits_samples_take dispensable)
  have others := rightAdmits.dispensable
  rwa [List.length_take, length_samples, length, ← List.drop_eq_drop_min] at others

theorem same_of_agree (leftPlain : Plain left.segments) (rightPlain : Plain right.segments)
    (captured : captures left.segments (samples left.segments) ⊆
      captures right.segments (samples left.segments))
    {position : Nat} {segment other : Segment}
    (there : left.segments[position]? = some segment)
    (otherThere : right.segments[position]? = some other) : segment.Same other := by
  have leftShows : (samples left.segments)[position]? = some (segment.sample position) := by
    rw [getElem?_samples, there, Option.map_some]
  have rightShows : (samples right.segments)[position]? = some (other.sample position) := by
    rw [getElem?_samples, otherThere, Option.map_some]
  have rightAdmits := (agree _ fun _ => leftPlain.isPart_of_mem_samples).admits.mp
    (admits_samples left.wildcard left.segments)
  have leftAdmits := (agree _ fun _ => rightPlain.isPart_of_mem_samples).admits.mpr
    (admits_samples right.wildcard right.segments)
  have otherTakes := rightAdmits.each position other _ otherThere leftShows
  have segmentTakes := leftAdmits.each position segment _ there rightShows
  cases segment with
  | literal text =>
      cases other with
      | literal otherText =>
          cases otherTakes
          exact .literal text
      | parameter name optional =>
          exact absurd segmentTakes.symm (leftPlain.ne_mark (List.mem_of_getElem? there) position)
  | parameter name optional =>
      cases other with
      | literal text =>
          exact absurd otherTakes.symm
            (rightPlain.ne_mark (List.mem_of_getElem? otherThere) position)
      | parameter otherName otherOptional =>
          have member : (name, mark position) ∈
              captures left.segments (samples left.segments) :=
            mem_captures_iff.mpr ⟨position, _, there, rfl, leftShows⟩
          rcases mem_captures_iff.mp (captured member) with
            ⟨index, found, foundThere, named, shown⟩
          rw [leftPlain.position_of_mark shown, otherThere] at foundThere
          cases foundThere
          cases named
          exact .parameter name optional otherOptional

end

/-- Two globs that no path can tell apart are alike. -/
theorem alike_of_sameOutcome {leftSource rightSource : String} {left right : Glob}
    (leftCompiles : compile leftSource = .ok left)
    (rightCompiles : compile rightSource = .ok right)
    (same : ∀ path, RouteInfo.sameOutcome (left.matchPath? path) (right.matchPath? path)) :
    left.Alike right := by
  have leftPlain := plain_of_compile leftCompiles
  have rightPlain := plain_of_compile rightCompiles
  have agree : ∀ parts, (∀ part ∈ parts, IsPart part) → Agree left right parts :=
    fun parts legal => agree_of_sameOutcome legal (same _)
  have opposite : ∀ parts, (∀ part ∈ parts, IsPart part) → Agree right left parts :=
    fun parts legal => (agree parts legal).symm
  have length : left.segments.length = right.segments.length :=
    Nat.le_antisymm (length_le_of_agree opposite leftPlain) (length_le_of_agree agree rightPlain)
  have captured := captures_subset_of_sameOutcome (compile_eq_ok_iff.mp leftCompiles).2.2
    (compile_eq_ok_iff.mp rightCompiles).2.2 (fun _ => leftPlain.isPart_of_mem_samples) (same _)
    (admits_samples left.wildcard left.segments)
  refine ⟨?_, ?_, fun position => ⟨?_, ?_⟩⟩
  · exact Bool.eq_iff_iff.mpr ⟨wildcard_of_agree agree leftPlain (Nat.le_of_eq length.symm),
      wildcard_of_agree opposite rightPlain (Nat.le_of_eq length)⟩
  · refine List.forall₂_iff_get.mpr ⟨length, fun position within otherWithin => ?_⟩
    exact same_of_agree agree leftPlain rightPlain captured
      (List.getElem?_eq_getElem within) (List.getElem?_eq_getElem otherWithin)
  · exact dispensable_of_agree agree leftPlain length
  · exact dispensable_of_agree opposite rightPlain length.symm

theorem sameOutcome_self {source : String} {glob : Glob} (compiles : compile source = .ok glob)
    (path : String) : RouteInfo.sameOutcome (glob.matchPath? path) (glob.matchPath? path) := by
  cases found : glob.matchPath? path with
  | none => rfl
  | some info =>
      rcases Option.map_eq_some_iff.mp found with ⟨capture, matched, rfl⟩
      have distinct := nodup_captured_of_matchParts? matched (compile_eq_ok_iff.mp compiles).2.2
      have keys : (capture.info.parameters.entries.map (·.1)).Nodup := by
        have entries : capture.info.parameters.entries = capture.captured :=
          Bindings.toList_ofList distinct
        rwa [entries]
      simp [RouteInfo.sameOutcome, RouteInfo.agrees, Bindings.agrees_self keys]

/-- Two compiled globs match all paths alike, and even if the order of the captured
parameters is disregarded, exactly if they have the same wildcard and as many segments,
the same literal or parameters of the same name at each position, and each position with
all that follows is optional in both or in neither. -/
theorem matchPath?_eq_iff_alike {leftSource rightSource : String} {left right : Glob}
    (leftCompiles : compile leftSource = .ok left)
    (rightCompiles : compile rightSource = .ok right) :
    ((∀ path, left.matchPath? path = right.matchPath? path) ↔ left.Alike right) ∧
    ((∀ path, RouteInfo.sameOutcome (left.matchPath? path) (right.matchPath? path)) ↔
      left.Alike right) := by
  have told := alike_of_sameOutcome leftCompiles rightCompiles
  have outcomes : (∀ path, left.matchPath? path = right.matchPath? path) →
      ∀ path, RouteInfo.sameOutcome (left.matchPath? path) (right.matchPath? path) := by
    intro equal path
    rw [← equal path]
    exact sameOutcome_self leftCompiles path
  exact ⟨⟨fun equal => told (outcomes equal), Alike.matchPath?_eq⟩,
    ⟨told, fun alike => outcomes alike.matchPath?_eq⟩⟩

/-- A mark in front of a literal says nothing; the one at the end does. -/
theorem matchPath?_eq_iff_alike_marked :
    ∃ left right short, compile "/:a?/b/:c?" = .ok left ∧ compile "/:a/b/:c?" = .ok right ∧
      compile "/:a/b/:c" = .ok short ∧
      (∀ path, left.matchPath? path = right.matchPath? path) ∧
      ¬∀ path, right.matchPath? path = short.matchPath? path := by
  have leftCompiles : compile "/:a?/b/:c?" = .ok ⟨"/:a?/b/:c?",
      [.parameter "a" true, .literal "b", .parameter "c" true], false⟩ := rfl
  have rightCompiles : compile "/:a/b/:c?" = .ok ⟨"/:a/b/:c?",
      [.parameter "a" false, .literal "b", .parameter "c" true], false⟩ := rfl
  have shortCompiles : compile "/:a/b/:c" = .ok ⟨"/:a/b/:c",
      [.parameter "a" false, .literal "b", .parameter "c" false], false⟩ := rfl
  refine ⟨_, _, _, leftCompiles, rightCompiles, shortCompiles, ?_, ?_⟩
  · refine (matchPath?_eq_iff_alike leftCompiles rightCompiles).1.mpr ⟨rfl, ?_, ?_⟩
    · exact .cons (.parameter "a" true false)
        (.cons (.literal "b") (.cons (.parameter "c" true true) .nil))
    · intro position
      match position with
      | 0 | 1 | 2 => decide
      | _ + 3 => exact Iff.rfl
  · intro equal
    have alike := (matchPath?_eq_iff_alike rightCompiles shortCompiles).1.mp equal
    exact absurd ((alike.dispensable 2).mp (by decide)) (by decide)

end Router.Glob
