import Router.Proofs.Path.Resolution

namespace Router.Path

/-! ## Composition

Going up from the root stays at the root, so that steps do not cancel out. All the same
it makes no difference whether a path is normalized on the way or only at the end: what
is to follow depends on nothing but the segments that were reached. -/

/-! ### Pieces of joined texts -/

theorem joined_cons (text : String) {texts : List String} (some_text : texts ≠ []) :
    joined (text :: texts) = joined [text, joined texts] := by
  rcases List.exists_cons_of_ne_nil some_text with ⟨next, rest, rfl⟩
  apply String.toList_inj.mp
  rw [toList_joined_cons_cons, toList_joined_cons_cons, joined_singleton]

theorem pieces_joined_eq_flatMap {texts : List String} (some_text : texts ≠ []) :
    pieces (joined texts) = texts.flatMap pieces := by
  induction texts with
  | nil => exact absurd rfl some_text
  | cons text texts induction =>
      cases texts with
      | nil => rw [joined_singleton, List.flatMap_singleton]
      | cons next rest =>
          have later := induction (List.cons_ne_nil next rest)
          rw [joined_cons text (List.cons_ne_nil next rest), pieces_joined_pair, later]
          exact List.flatMap_cons.symm

/-- Nothing joined has a single piece, and that is dropped. -/
theorem segments_joined (texts : List String) :
    segments (joined texts) = reduce (texts.flatMap pieces) := by
  cases texts with
  | nil => decide +kernel
  | cons text texts => rw [segments, pieces_joined_eq_flatMap (List.cons_ne_nil text texts)]

theorem segments_normalize (texts : List String) :
    segments (normalize texts) = reduce (texts.flatMap pieces) := by
  rw [normalize, segments_ofSegments fun _ => isSegment_of_mem_segments, segments_joined]

/-! ### Normalizing on the way -/

/-- What the pieces that follow lead to is decided by the segments reached before. -/
theorem reduce_append_congr {left right : List String} (same : reduce left = reduce right)
    (pieces : List String) : reduce (left ++ pieces) = reduce (right ++ pieces) := by
  rw [reduce_append, reduce_append, same]

theorem normalize_eq (texts : List String) :
    normalize texts = ofSegments (reduce (texts.flatMap pieces)) := by
  rw [normalize, segments_joined]

theorem normalize_append (front back : List String) :
    normalize (front ++ back) = normalize (normalize front :: back) := by
  have reached : reduce (front.flatMap pieces) = reduce (pieces (normalize front)) :=
    (segments_normalize front).symm
  rw [normalize_eq, normalize_eq, List.flatMap_append, List.flatMap_cons,
    reduce_append_congr reached]

theorem normalize_append_joined (front : List String) {back : List String}
    (some_text : back ≠ []) : normalize (front ++ [joined back]) = normalize (front ++ back) := by
  rw [normalize_eq, normalize_eq, List.flatMap_append, List.flatMap_append,
    List.flatMap_singleton, pieces_joined_eq_flatMap some_text]

/-! ### Resolving on the way -/

theorem joined_pair (left right : String) : joined [left, right] = left ++ "/" ++ right := by
  apply String.toList_inj.mp
  simp [joined]

/-- A relative target can be written behind its base and read from the root. -/
theorem resolve_root_joined {target : String} (relative : isAbsolute target = false)
    (base : String) : resolve "/" (joined [base, target]) = resolve base target := by
  rw [resolve_root, resolve, relative, if_neg Bool.false_ne_true, normalize]

theorem resolve_normalize (base target : String) :
    resolve (normalize [base]) target = resolve base target := by
  unfold resolve
  split
  · rfl
  · exact (normalize_append [base] [target]).symm

/-- A text that is not empty comes first in what it is joined to. -/
theorem head?_joined {text : String} (filled : text ≠ "") (texts : List String) :
    (joined (text :: texts)).toList.head? = text.toList.head? := by
  rcases List.exists_cons_of_ne_nil fun empty => filled (String.toList_eq_nil_iff.mp empty)
    with ⟨first, others, characters⟩
  cases texts with
  | nil => rw [joined_singleton]
  | cons next rest =>
      rw [toList_joined_cons_cons, characters]
      rfl

theorem isAbsolute_joined {text : String} (filled : text ≠ "") (texts : List String) :
    isAbsolute (joined (text :: texts)) = isAbsolute text := by
  rw [isAbsolute, isAbsolute, head?_joined filled]

/-- A relative step can be taken on its own or together with the step before it. -/
theorem resolve_joined_pair {step link : String} (filled : step ≠ "")
    (relative : isAbsolute link = false) (base : String) :
    resolve (resolve base step) link = resolve base (joined [step, link]) := by
  have together : ∀ context, normalize [normalize (context ++ [step]), link] =
      normalize (context ++ [joined [step, link]]) := by
    intro context
    calc normalize [normalize (context ++ [step]), link]
        = normalize (context ++ [step] ++ [link]) := (normalize_append _ [link]).symm
      _ = normalize (context ++ [step, link]) := by rw [List.append_assoc, List.singleton_append]
      _ = normalize (context ++ [joined [step, link]]) :=
          (normalize_append_joined context (List.cons_ne_nil step [link])).symm
  rw [resolve, relative, if_neg Bool.false_ne_true, resolve, resolve,
    isAbsolute_joined filled]
  split
  · exact together []
  · exact together [base]

theorem joined_ne_empty {text : String} (filled : text ≠ "") (texts : List String) :
    joined (text :: texts) ≠ "" := by
  intro empty
  have first := head?_joined filled texts
  rw [empty] at first
  exact filled (String.toList_eq_nil_iff.mp (List.head?_eq_none_iff.mp first.symm))

/-- So can any number of relative steps. -/
theorem foldl_resolve {step : String} (filled : step ≠ "") {links : List String}
    (relative : ∀ link ∈ links, isAbsolute link = false) (base : String) :
    links.foldl resolve (resolve base step) = resolve base (joined (step :: links)) := by
  induction links generalizing step with
  | nil => rw [joined_singleton]; rfl
  | cons link links induction =>
      rcases List.forall_mem_cons.mp relative with ⟨first, others⟩
      have regrouped : joined (joined [step, link] :: links) = joined (step :: link :: links) := by
        cases links with
        | nil => exact joined_singleton _
        | cons next rest =>
            apply String.toList_inj.mp
            simp only [toList_joined_cons_cons, joined_singleton, List.append_assoc,
              List.cons_append]
      rw [List.foldl_cons, resolve_joined_pair filled first,
        induction (joined_ne_empty filled [link]) others, regrouped]

/-- A normal form is reached piece by piece, in whatever texts the pieces come, so that
normalizing what comes first changes nothing. A relative link read from where a step has
led is the step and the link read as one text, and so are many links one after the other.
Only the place that a base names matters, not how it is written. -/
theorem resolution_composes :
    (∀ texts, normalize texts = ofSegments (reduce (texts.flatMap pieces))) ∧
    (∀ front back, normalize (front ++ back) = normalize (normalize front :: back)) ∧
    (∀ base step link, step ≠ "" → isAbsolute link = false →
      resolve (resolve base step) link = resolve base (step ++ "/" ++ link)) ∧
    (∀ base target, resolve base target = resolve (normalize [base]) target) ∧
    ∀ base step links, step ≠ "" → (∀ link ∈ links, isAbsolute link = false) →
      links.foldl resolve (resolve base step) = resolve base (joined (step :: links)) := by
  refine ⟨normalize_eq, normalize_append, ?_, ?_, ?_⟩
  · intro base step link filled relative
    have text : step ++ "/" ++ link = joined [step, link] := by
      apply String.toList_inj.mp
      simp [joined]
    rw [text]
    exact resolve_joined_pair filled relative base
  · exact fun base target => (resolve_normalize base target).symm
  · exact fun base step links filled relative => foldl_resolve filled relative base

/-- All ways climb to the root and no further before they go down again. -/
theorem resolution_composes_climbing :
    resolve (resolve "/news" "../..//") "../archive" =
      resolve "/news" "../..///../archive" ∧
    resolve "/news" "../..///../archive" = "/archive" ∧
    ["../archive", ".", "2024//"].foldl resolve (resolve "/news" "../..//") =
      resolve "/news" "../..///../archive/./2024//" ∧
    resolve "/news" "../..///../archive/./2024//" = "/archive/2024" := by
  refine ⟨?_, by decide +kernel, ?_, by decide +kernel⟩
  · exact resolution_composes.2.2.1 "/news" "../..//" "../archive" (by decide) rfl
  · exact resolution_composes.2.2.2.2 "/news" "../..//" ["../archive", ".", "2024//"]
      (by decide) (by decide +kernel)

end Router.Path
