import Router.Proofs.Path.Composition

namespace Router.Path

/-! ## Normal forms

A normal form is a list of segments that has been written down. It holds just what can be
read off between its slashes, so that nothing is lost either way, and the canonical paths
are the texts that normalizing leaves as they are. -/

theorem Canonical.normalize_eq {path : String} (canonical : Canonical path) :
    normalize [path] = path := by
  rw [normalize, joined_singleton, canonical.ofSegments_segments]

theorem normalize_eq_self_iff {path : String} : normalize [path] = path ↔ Canonical path := by
  constructor
  · intro kept
    rw [← kept]
    exact canonical_normalize [path]
  · exact Canonical.normalize_eq

instance (path : String) : Decidable (Canonical path) :=
  decidable_of_iff _ normalize_eq_self_iff

example : Canonical "/news/latest" ∧ ¬Canonical "/news/" := by decide +kernel

theorem segments_normalize_singleton (path : String) :
    segments (normalize [path]) = segments path := by
  rw [segments_normalize, List.flatMap_singleton, segments]

theorem Canonical.segments_inj {left right : String} (canonicalLeft : Canonical left)
    (canonicalRight : Canonical right) : segments left = segments right ↔ left = right := by
  constructor
  · intro same
    rw [← canonicalLeft.ofSegments_segments, same, canonicalRight.ofSegments_segments]
  · exact congrArg segments

/-! ### Reading segments off -/

/-- What stands between the slashes of a path, behind the first of them. Nothing stands
there in the root. -/
def written (path : String) : List String :=
  if path = "/" then [] else pieces (String.ofList path.toList.tail)

theorem joined_eq_empty_iff {names : List String} (legal : ∀ name ∈ names, IsSegment name) :
    joined names = "" ↔ names = [] := by
  cases names with
  | nil => exact iff_of_true rfl rfl
  | cons first rest =>
      refine iff_of_false ?_ (List.cons_ne_nil first rest)
      exact joined_ne_empty (legal first List.mem_cons_self).1 rest

theorem ofSegments_eq_root_iff {names : List String}
    (legal : ∀ name ∈ names, IsSegment name) : ofSegments names = "/" ↔ names = [] := by
  rw [← joined_eq_empty_iff legal, ← String.toList_inj, toList_ofSegments,
    ← String.toList_eq_nil_iff]
  exact List.cons_inj_right '/'

theorem written_ofSegments {names : List String} (legal : ∀ name ∈ names, IsSegment name) :
    written (ofSegments names) = names := by
  rw [written]
  split
  · next root => exact ((ofSegments_eq_root_iff legal).mp root).symm
  · next below =>
      have some_name : names ≠ [] := fun none => below ((ofSegments_eq_root_iff legal).mpr none)
      rw [toList_ofSegments, List.tail_cons, String.ofList_toList,
        pieces_joined some_name fun name member => (legal name member).2.2.2]

/-- The pieces of a path that hold anything are its segments. -/
theorem filter_pieces_ofSegments {names : List String}
    (legal : ∀ name ∈ names, IsSegment name) :
    (pieces (ofSegments names)).filter (· ≠ "") = names := by
  cases names with
  | nil => decide +kernel
  | cons first rest =>
      rw [pieces_ofSegments (List.cons_ne_nil first rest)
          fun name member => (legal name member).2.2.2,
        List.filter_cons_of_neg (by simp), List.filter_eq_self]
      exact fun name member => decide_eq_true (legal name member).1

/-- The segments of a path can be read off its normal form. -/
theorem segments_eq_written (path : String) : segments path = written (normalize [path]) := by
  rw [normalize, joined_singleton, written_ofSegments fun _ => isSegment_of_mem_segments]

/-- Whatever texts are normalized, the result is canonical, and the canonical paths are
exactly what comes out and exactly what comes out unchanged. A normal form is the
segments of the path behind slashes; they are what is written in it, and what any list
of segments that is written down like that consists of. -/
theorem canonical_paths_are_segments :
    (∀ texts, Canonical (normalize texts)) ∧
    (∀ path, normalize [path] = path ↔ Canonical path) ∧
    (∀ texts, normalize [normalize texts] = normalize texts) ∧
    (∀ path, Canonical path ↔ ∃ text, normalize [text] = path) ∧
    (∀ path,
      "/" ++ joined (segments path) = normalize [path] ∧
      segments path = written (normalize [path]) ∧
      segments (normalize [path]) = segments path) ∧
    ∀ names, (∀ name ∈ names, IsSegment name) → segments ("/" ++ joined names) = names := by
  refine ⟨canonical_normalize, fun path => normalize_eq_self_iff, ?_, ?_, ?_, ?_⟩
  · exact fun texts => (canonical_normalize texts).normalize_eq
  · intro path
    constructor
    · exact fun canonical => ⟨path, canonical.normalize_eq⟩
    · intro reached
      rcases reached with ⟨text, rfl⟩
      exact canonical_normalize [text]
  · intro path
    refine ⟨?_, segments_eq_written path, segments_normalize_singleton path⟩
    rw [normalize, joined_singleton, ofSegments]
  · exact fun names legal => segments_ofSegments legal

/-- Three dots and what looks like a glob are segments like others. -/
theorem canonical_paths_are_segments_dotted :
    (∀ name ∈ ["...", ":id?", "a*", " "], IsSegment name) ∧
      segments ("/" ++ joined ["...", ":id?", "a*", " "]) = ["...", ":id?", "a*", " "] := by
  have legal : ∀ name ∈ ["...", ":id?", "a*", " "], IsSegment name := by decide +kernel
  exact ⟨legal, canonical_paths_are_segments.2.2.2.2.2 _ legal⟩

end Router.Path
