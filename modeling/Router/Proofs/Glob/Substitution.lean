import Router.Proofs.Glob.Meaning

namespace Router.Glob

/-! ## Substitution

A match can be read off the segments and the parts position by position, and nothing of
what was consumed gets lost in it: the captured parts, put back in place of their
parameters, are the consumed parts again. -/

/-- The text that a segment stands for where parameters have these values. A parameter
without a value stands for nothing. -/
def Segment.instance? (values : List (String × String)) : Segment → Option String
  | .literal text => some text
  | .parameter name _ => values.lookup name

def substitute (values : List (String × String)) (segments : List Segment) : List String :=
  segments.filterMap (Segment.instance? values)

section

variable {wildcard : Bool} {segments : List Segment} {parts : List String}

theorem substitute_cons_of_notMem {name : String} (fresh : name ∉ declaredNames segments)
    (part : String) (values : List (String × String)) :
    substitute ((name, part) :: values) segments = substitute values segments := by
  apply List.filterMap_congr
  intro segment member
  cases segment with
  | literal text => rfl
  | parameter other optional =>
      have different : other ≠ name := by
        rintro rfl
        exact fresh (List.mem_filterMap.mpr ⟨_, member, rfl⟩)
      rw [Segment.instance?, Segment.instance?, List.lookup_cons, beq_false_of_ne different]

theorem substitute_of_dispensable (dispensable : Dispensable segments) :
    substitute [] segments = [] := by
  apply List.filterMap_eq_nil_iff.mpr
  intro segment member
  cases segment with
  | literal text => cases dispensable _ member
  | parameter name optional => rfl

theorem substitute_captures (distinct : (declaredNames segments).Nodup)
    (admits : Admits wildcard segments parts) :
    substitute (captures segments parts) segments = parts.take segments.length := by
  induction segments generalizing parts with
  | nil => rfl
  | cons segment segments induction =>
      cases parts with
      | nil => exact substitute_of_dispensable admits.dispensable
      | cons part parts =>
          rcases admits_cons_cons.mp admits with ⟨first, others⟩
          cases segment with
          | literal text =>
              cases (first : part = text)
              exact congrArg (part :: ·) (induction distinct others)
          | parameter name optional =>
              rcases List.nodup_cons.mp distinct with ⟨fresh, distinct⟩
              have own : Segment.instance? ((name, part) :: captures segments parts)
                  (.parameter name optional) = some part := List.lookup_cons_self
              have rest := (substitute_cons_of_notMem fresh part _).trans
                (induction distinct others)
              exact (List.filterMap_cons_some own).trans (congrArg (part :: ·) rest)

end

/-- A compiled glob matches a path if each part is taken up by the segment over it, all
segments beyond the parts can be left out, and there are no parts beyond the segments
except under a wildcard. The match holds, in order and under distinct names, the parts
over which parameters stand, and its path is made of the parts over which any segment
stands. These are what comes of the segments when the captured parts are put back. -/
theorem matchPath?_substitutes {source : String} {glob : Glob}
    (compiles : compile source = .ok glob) (path : String) :
    let segments := glob.segments
    let parts := Path.parts path
    ((glob.matchPath? path).isSome ↔ Admits glob.wildcard segments parts) ∧
    ∀ info ∈ glob.matchPath? path,
      info.parameters.toList = captures segments parts ∧
      info.parameters.keys.Nodup ∧
      info.matchedPath = Path.ofSegments (parts.take (min segments.length parts.length)) ∧
      substitute info.parameters.toList segments =
        parts.take (min segments.length parts.length) := by
  intro segments parts
  have distinct : (declaredNames segments).Nodup := (compile_eq_ok_iff.mp compiles).2.2
  constructor
  · rw [matchPath?, Option.isSome_map, Option.isSome_iff_exists]
    simp only [matchParts?_eq_some_iff_admits]
    constructor
    · rintro ⟨_, admits, -⟩
      exact admits
    · intro admits
      exact ⟨_, admits, rfl⟩
  · intro info matched
    rcases Option.map_eq_some_iff.mp matched with ⟨capture, found, rfl⟩
    rcases matchParts?_eq_some_iff_admits.mp found with ⟨admits, rfl⟩
    have captured := toList_parameters distinct admits
    have names := nodup_captured_of_matchParts? found distinct
    have keys : (admitted segments parts).info.parameters.keys =
        (captures segments parts).map (·.1) := congrArg (List.map Prod.fst) captured
    rw [captured, keys, ← List.take_eq_take_min]
    exact ⟨rfl, names, rfl, substitute_captures distinct admits⟩

/-- An optional parameter that nothing is left for is left out of the match and stands for
nothing in its path. -/
theorem matchPath?_substitutes_optional :
    ∃ info ∈ (read "/user/:id/:tab?").matchPath? "/user/5/",
      info.matchedPath = "/user/5" ∧
      substitute info.parameters.toList (read "/user/:id/:tab?").segments = ["user", "5"] := by
  have compiles : compile "/user/:id/:tab?" = .ok (read "/user/:id/:tab?") := rfl
  have matched : (read "/user/:id/:tab?").matchPath? "/user/5/" =
      some { matchedPath := "/user/5", parameters := .ofList [("id", "5")] } := by
    decide +kernel
  have substituted := ((matchPath?_substitutes compiles "/user/5/").2 _ matched).2.2.2
  exact ⟨_, matched, rfl, substituted.trans (by decide +kernel)⟩

end Router.Glob
