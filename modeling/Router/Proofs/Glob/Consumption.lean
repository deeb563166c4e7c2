import Router.Proofs.Glob.Meaning
import Router.Proofs.Navigator.Links

namespace Router

/-! ## Consumption

What a match consumes is a path by itself, and the match can be had again from this path:
nothing that was left to a wildcard, and no parameter that was left out, has any part in
it. -/

namespace Path

theorem parts_eq_pieces (path : String) : parts path = [] ∨ ∃ text, parts path = pieces text := by
  unfold parts
  extract_lets unrooted body
  split
  · exact .inl rfl
  · exact .inr ⟨String.ofList body, rfl⟩

theorem slash_notMem_of_mem_parts {path part : String} (member : part ∈ parts path) :
    '/' ∉ part.toList := by
  rcases parts_eq_pieces path with none | ⟨text, split⟩
  · rw [none] at member
    cases member
  · rw [split] at member
    exact slash_notMem_of_mem_pieces member

end Path

namespace Glob

section

variable {wildcard : Bool} {segments : List Segment} {parts : List String}

/-- The parts beyond the segments can be taken away. -/
theorem Admits.take (admits : Admits wildcard segments parts) :
    Admits wildcard segments (parts.take segments.length) := by
  have length : (parts.take segments.length).length = min parts.length segments.length := by
    rw [List.length_take, Nat.min_comm]
  refine ⟨.inl (length ▸ Nat.min_le_right _ _), ?_, fun position segment part there taken => ?_⟩
  · rw [length, ← List.drop_eq_drop_min]
    exact admits.dispensable
  · rw [List.getElem?_take] at taken
    split at taken
    · exact admits.each position segment part there taken
    · cases taken

theorem captures_take :
    captures segments (parts.take segments.length) = captures segments parts := by
  have paired : segments.zip (parts.take segments.length) = segments.zip parts :=
    calc segments.zip (parts.take segments.length)
        = (segments.take segments.length).zip (parts.take segments.length) := by
          rw [List.take_length]
      _ = (segments.zip parts).take segments.length := List.take_zipWith.symm
      _ = segments.zip parts := by
          apply List.take_of_length_le
          rw [List.length_zip]
          exact Nat.min_le_left _ _
  rw [captures, paired, captures]

theorem admitted_take :
    admitted segments (parts.take segments.length) = admitted segments parts := by
  rw [admitted, admitted, captures_take, List.take_take, Nat.min_self]

/-- Literals are never empty, and parameters capture no empty part. -/
theorem Admits.ne_empty_of_mem_take (admits : Admits wildcard segments parts)
    (plain : Plain segments) {part : String} (member : part ∈ parts.take segments.length) :
    part ≠ "" := by
  rcases List.mem_iff_getElem?.mp member with ⟨position, taken⟩
  rw [List.getElem?_take] at taken
  split at taken
  · next within =>
      have there := List.getElem?_eq_getElem within
      have first := admits.each position _ part there taken
      cases segment : segments[position] with
      | literal text =>
          rw [segment] at there first
          cases (first : part = text)
          exact (plain part (List.mem_of_getElem? there)).1.1
      | parameter name optional =>
          rw [segment] at first
          exact first
  · cases taken

end

/-- Matching a path again that was consumed finds the same, with all parameters in the same
order. The parts of this path are the first ones of the path it was found in, and none of
them is empty. In a canonical path a canonical one is found, and links to it are active
wherever the former is current. -/
theorem matchPath?_matchedPath {source : String} {glob : Glob}
    (compiles : compile source = .ok glob) {path : String} {info : RouteInfo}
    (matched : glob.matchPath? path = some info) :
    glob.matchPath? info.matchedPath = some info ∧
    Path.parts info.matchedPath <+: Path.parts path ∧
    Path.Filled info.matchedPath ∧
    (Path.Canonical path →
      Path.Canonical info.matchedPath ∧
      ∀ navigator : Navigator, navigator.path = path →
        navigator.isActive info.matchedPath "/" false) := by
  rcases Option.map_eq_some_iff.mp matched with ⟨capture, found, shown⟩
  rcases matchParts?_eq_some_iff_admits.mp found with ⟨admits, rfl⟩
  let consumed := (Path.parts path).take glob.segments.length
  have legal : ∀ part ∈ consumed, IsPart part := fun part member =>
    ⟨admits.ne_empty_of_mem_take (plain_of_compile compiles) member,
      Path.slash_notMem_of_mem_parts (List.mem_of_mem_take member)⟩
  have consumes : info.matchedPath = Path.ofSegments consumed := congrArg _ shown.symm
  have parts : Path.parts info.matchedPath = consumed := by
    rw [consumes, Path.parts_ofSegments_of_filled (fun part member => (legal part member).1)
      fun part member => (legal part member).2]
  refine ⟨?_, ?_, ?_, ?_⟩
  · rw [consumes, matchPath?_ofSegments_eq_some_iff legal, admitted_take]
    exact ⟨admits.take, shown.symm⟩
  · rw [parts]
    exact List.take_prefix _ _
  · intro part member
    rw [parts] at member
    exact (legal part member).1
  · intro canonical
    rcases canonical_matchedPath canonical matched with ⟨canonicalMatched, before⟩
    refine ⟨canonicalMatched, fun navigator here => ?_⟩
    rw [Navigator.isActive_iff_isPrefix, canonicalMatched.resolve_eq, here]
    exact before

/-- Whatever a wildcard admits is gone from the path that was consumed, an empty part no less
than any other. -/
theorem matchPath?_matchedPath_trailing :
    let glob := read "/user/:id/:tab?/*"
    let navigator := (Navigator.start "/user" {}).applyAll [.navigate "5/posts/7" false]
    (∃ info ∈ glob.matchPath? "user/5/posts//7/",
      info.parameters.toList = [("id", "5"), ("tab", "posts")] ∧
      glob.matchPath? info.matchedPath = some info) ∧
    ∃ info ∈ glob.matchPath? "/user/5/posts/7",
      info.matchedPath = "/user/5/posts" ∧ navigator.isActive info.matchedPath "/" false := by
  intro glob navigator
  have compiles : compile "/user/:id/:tab?/*" = .ok glob := rfl
  have untidy : glob.matchPath? "user/5/posts//7/" =
      some ⟨"/user/5/posts", .ofList [("id", "5"), ("tab", "posts")]⟩ := by
    decide +kernel
  have tidy : glob.matchPath? "/user/5/posts/7" =
      some ⟨"/user/5/posts", .ofList [("id", "5"), ("tab", "posts")]⟩ := by
    decide +kernel
  have canonical : Path.Canonical "/user/5/posts/7" := by decide +kernel
  have here : navigator.path = "/user/5/posts/7" := by decide +kernel
  have again := matchPath?_matchedPath compiles untidy
  have active := ((matchPath?_matchedPath compiles tidy).2.2.2 canonical).2 navigator here
  exact ⟨⟨_, untidy, by decide +kernel, again.1⟩, _, tidy, rfl, active⟩

end Glob

end Router
