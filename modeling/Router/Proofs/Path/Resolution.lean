import Mathlib.Data.List.Induction
import Router.Path

namespace Router.Path

/-! ## Resolution

A relative text acts on every base alike: it climbs out of so many of the innermost
segments, or out of all of them if there are fewer, and then adds segments of its own.
What it resolves to is always canonical. -/

/-! ### Pieces of a text -/

theorem slash_notMem_of_mem_splitOn {characters piece : List Char}
    (member : piece ∈ characters.splitOn '/') : '/' ∉ piece := by
  induction characters generalizing piece with
  | nil =>
      rw [List.splitOn_nil, List.mem_singleton] at member
      simp [member]
  | cons character rest induction =>
      rw [List.splitOn_cons_eq_if_modifyHead] at member
      split at member
      · rcases List.mem_cons.mp member with empty | member
        · simp [empty]
        · exact induction member
      · next different =>
          rcases List.exists_cons_of_ne_nil (List.splitOn_ne_nil '/' rest) with
            ⟨first, others, splits⟩
          rw [splits] at induction
          rw [splits, List.modifyHead_cons] at member
          rcases List.mem_cons.mp member with equal | member
          · have notSlash : '/' ≠ character := fun slash =>
              different (beq_iff_eq.mpr slash.symm)
            rw [equal, List.mem_cons, not_or]
            exact ⟨notSlash, induction List.mem_cons_self⟩
          · exact induction (List.mem_cons_of_mem first member)

theorem slash_notMem_of_mem_pieces {text piece : String} (member : piece ∈ pieces text) :
    '/' ∉ piece.toList := by
  rcases List.mem_map.mp member with ⟨characters, split, rfl⟩
  rw [String.toList_ofList]
  exact slash_notMem_of_mem_splitOn split

theorem pieces_of_slash_notMem {text : String} (unslashed : '/' ∉ text.toList) :
    pieces text = [text] := by
  rw [pieces, List.splitOn_eq_singleton unslashed, List.map_singleton, String.ofList_toList]

theorem joined_pieces (text : String) : joined (pieces text) = text := by
  apply String.toList_inj.mp
  rw [joined, String.toList_intercalate, pieces, List.map_map]
  simp only [Function.comp_def, String.toList_ofList, List.map_id']
  exact List.intercalate_splitOn '/'

theorem exists_pieces_concat (text : String) : ∃ front last, pieces text = front ++ [last] := by
  have some_piece : pieces text ≠ [] := by simp [pieces]
  exact ⟨_, _, (List.dropLast_concat_getLast some_piece).symm⟩

/-- The first piece of a path is the empty one in front of the leading slash. -/
theorem pieces_ofSegments {names : List String} (some_name : names ≠ [])
    (unslashed : ∀ name ∈ names, '/' ∉ name.toList) :
    pieces (ofSegments names) = "" :: names := by
  rcases List.exists_cons_of_ne_nil some_name with ⟨first, rest, rfl⟩
  rw [ofSegments_cons, pieces_joined (by simp)]
  exact List.forall_mem_cons.mpr ⟨by simp, unslashed⟩

/-- Two texts joined by a slash fall into the pieces of both. -/
theorem pieces_joined_pair (left right : String) :
    pieces (joined [left, right]) = pieces left ++ pieces right := by
  have characters : (joined [left, right]).toList = left.toList ++ '/' :: right.toList := by
    simp [joined]
  rw [pieces, characters, List.splitOn_append_cons_self, List.map_append]
  rfl

@[simp] theorem joined_singleton (text : String) : joined [text] = text := by
  apply String.toList_inj.mp
  simp [joined]

/-! ### Where the pieces lead -/

theorem isSegment_follow {place : List String} {piece : String}
    (legal : ∀ segment ∈ place, IsSegment segment) (unslashed : '/' ∉ piece.toList) :
    ∀ segment ∈ follow place piece, IsSegment segment := by
  unfold follow
  split
  · exact legal
  · next named =>
      split
      · exact fun segment member => legal segment (List.mem_of_mem_tail member)
      · next notUp =>
          intro segment member
          rcases List.mem_cons.mp member with equal | member
          · subst equal
            exact ⟨fun empty => named (.inl empty), fun dot => named (.inr dot), notUp,
              unslashed⟩
          · exact legal segment member

theorem isSegment_foldl_follow {pieces place : List String}
    (legal : ∀ segment ∈ place, IsSegment segment)
    (unslashed : ∀ piece ∈ pieces, '/' ∉ piece.toList) :
    ∀ segment ∈ pieces.foldl follow place, IsSegment segment := by
  induction pieces generalizing place with
  | nil => exact legal
  | cons piece rest induction =>
      exact induction (isSegment_follow legal (unslashed piece (List.mem_cons_self)))
        fun other member => unslashed other (List.mem_cons_of_mem piece member)

theorem isSegment_of_mem_segments {path segment : String}
    (member : segment ∈ segments path) : IsSegment segment := by
  have nowhere : ∀ segment ∈ ([] : List String), IsSegment segment := by simp
  exact isSegment_foldl_follow nowhere (fun piece => slash_notMem_of_mem_pieces) segment
    (List.mem_reverse.mp member)

/-- How many of the innermost segments of the place where they are read the pieces
leave. -/
def climb : List String → Nat
  | [] => 0
  | piece :: rest =>
      if piece = "" ∨ piece = "." then climb rest
      else if piece = ".." then climb rest + 1
      else climb rest - 1

theorem foldl_follow (pieces place : List String) :
    pieces.foldl follow place =
      pieces.foldl follow [] ++ place.drop (climb pieces) := by
  induction pieces generalizing place with
  | nil => simp [climb]
  | cons piece rest induction =>
      rw [List.foldl_cons, List.foldl_cons, induction (follow place piece),
        induction (follow [] piece), List.append_assoc, climb]
      unfold follow
      split
      · simp
      · split
        · simp
        · -- the segment is kept by what follows only if that climbs out of nothing
          cases climb rest with
          | zero => simp
          | succ height => simp

theorem reduce_append (base pieces : List String) :
    reduce (base ++ pieces) =
      (reduce base).take ((reduce base).length - climb pieces) ++ reduce pieces := by
  rw [reduce, List.foldl_append, foldl_follow, List.reverse_append, reduce, reduce,
    List.reverse_drop, List.length_reverse]

theorem climb_eq_zero {pieces : List String} (level : ".." ∉ pieces) :
    climb pieces = 0 := by
  induction pieces with
  | nil => rfl
  | cons piece rest induction =>
      rw [List.mem_cons, not_or] at level
      have notUp : piece ≠ ".." := fun up => level.1 up.symm
      rw [climb, induction level.2]
      simp [notUp]

/-! ### Resolving -/

/-- The segments of a base that stay when a target is read from there. -/
def remaining (base target : String) : List String :=
  (segments base).take ((segments base).length - climb (pieces target))

theorem resolve_of_relative {target : String} (relative : isAbsolute target = false)
    (base : String) :
    resolve base target = ofSegments (remaining base target ++ segments target) := by
  rw [resolve, relative, if_neg (by simp), normalize, segments, pieces_joined_pair,
    reduce_append]
  rfl

theorem resolve_of_absolute {target : String} (absolute : isAbsolute target = true)
    (base : String) : resolve base target = ofSegments (segments target) := by
  rw [resolve, absolute, if_pos rfl, normalize, joined_singleton]

theorem remaining_of_level {target : String} (level : ".." ∉ pieces target)
    (base : String) : remaining base target = segments base := by
  rw [remaining, climb_eq_zero level, Nat.sub_zero, List.take_length]

@[simp] theorem ofSegments_nil : ofSegments [] = "/" := by decide +kernel

@[simp] theorem segments_root : segments "/" = [] := by decide +kernel

@[simp] theorem remaining_root (target : String) : remaining "/" target = [] := by
  rw [remaining, segments_root, List.take_nil]

/-- Seen from the root, absolute and relative texts are the same. -/
theorem resolve_root (target : String) :
    resolve "/" target = ofSegments (segments target) := by
  cases absolute : isAbsolute target with
  | false => rw [resolve_of_relative absolute, remaining_root, List.nil_append]
  | true => exact resolve_of_absolute absolute "/"

theorem isSegment_of_mem_remaining {base target segment : String}
    (member : segment ∈ remaining base target) : IsSegment segment :=
  isSegment_of_mem_segments (List.mem_of_mem_take member)

/-! ### Canonical paths -/

theorem toList_joined_cons_cons (name next : String) (rest : List String) :
    (joined (name :: next :: rest)).toList =
      name.toList ++ '/' :: (joined (next :: rest)).toList := by
  cases rest <;> simp [joined, String.toList_intercalate, List.intercalate]

theorem toList_ofSegments (names : List String) :
    (ofSegments names).toList = '/' :: (joined names).toList := by
  simp [ofSegments]

theorem toList_joined_concat (names : List String) (last : String) :
    (joined (names ++ [last])).toList =
      (names.map fun name => name.toList ++ ['/']).flatten ++ last.toList := by
  induction names with
  | nil => rw [List.nil_append, joined_singleton]; rfl
  | cons name rest induction =>
      rcases List.exists_cons_of_ne_nil (List.concat_ne_nil last rest) with
        ⟨next, others, split⟩
      rw [List.cons_append, split, toList_joined_cons_cons, ← split, induction]
      simp

theorem length_joined_le {shorter longer : List String} (before : shorter <+: longer) :
    (joined shorter).length ≤ (joined longer).length := by
  simp only [← String.length_toList]
  induction shorter generalizing longer with
  | nil => simp [joined]
  | cons name rest induction =>
      rcases before with ⟨more, rfl⟩
      cases rest with
      | nil =>
          cases more with
          | nil => exact Nat.le_refl _
          | cons next more =>
              rw [List.cons_append, List.nil_append, toList_joined_cons_cons,
                joined_singleton, List.length_append]
              exact Nat.le_add_right _ _
      | cons next rest =>
          have shorter := induction (List.prefix_append (next :: rest) more)
          rw [List.cons_append] at shorter
          rw [List.cons_append, List.cons_append, toList_joined_cons_cons,
            toList_joined_cons_cons, List.length_append, List.length_append,
            List.length_cons, List.length_cons]
          omega

theorem length_ofSegments_le {shorter longer : List String} (before : shorter <+: longer) :
    (ofSegments shorter).length ≤ (ofSegments longer).length := by
  rw [ofSegments, ofSegments, String.length_append, String.length_append]
  exact Nat.add_le_add_left (length_joined_le before) _

/-- What matching sees of a path is what stands behind its slashes, be it a segment or
not. -/
theorem parts_ofSegments_of_filled {names : List String} (filled : ∀ name ∈ names, name ≠ "")
    (unslashed : ∀ name ∈ names, '/' ∉ name.toList) : parts (ofSegments names) = names := by
  cases names using List.reverseRecOn with
  | nil => decide +kernel
  | append_singleton names last =>
      have lastFilled : last.toList ≠ [] := fun empty =>
        filled last (by simp) (String.toList_eq_nil_iff.mp empty)
      have unended : (joined (names ++ [last])).toList.getLast? ≠ some '/' := by
        rw [toList_joined_concat, List.getLast?_append,
          List.getLast?_eq_some_getLast lastFilled]
        intro slash
        exact unslashed last (by simp) (Option.some_inj.mp slash ▸ List.getLast_mem lastFilled)
      have body : (joined (names ++ [last])).toList ≠ [] := by
        rw [toList_joined_concat]
        simp [lastFilled]
      have split : parts (ofSegments (names ++ [last])) =
          pieces (joined (names ++ [last])) := by
        simp only [parts, toList_ofSegments, if_neg unended, if_neg body, String.ofList_toList]
      rw [split, pieces_joined (by simp) unslashed]

theorem parts_ofSegments {names : List String}
    (legal : ∀ segment ∈ names, IsSegment segment) : parts (ofSegments names) = names :=
  parts_ofSegments_of_filled (fun name member => (legal name member).1)
    fun name member => (legal name member).2.2.2

theorem Canonical.parts_eq_segments {path : String} (canonical : Canonical path) :
    parts path = segments path := by
  rcases canonical with ⟨names, legal, rfl⟩
  rw [parts_ofSegments legal, segments_ofSegments legal]

theorem canonical_normalize (texts : List String) : Canonical (normalize texts) :=
  ⟨segments (joined texts), fun _ => isSegment_of_mem_segments, rfl⟩

theorem canonical_resolve (base target : String) : Canonical (resolve base target) := by
  unfold resolve
  split
  · exact canonical_normalize [target]
  · exact canonical_normalize [base, target]

theorem isAbsolute_ofSegments (names : List String) :
    isAbsolute (ofSegments names) = true := by
  rw [isAbsolute, toList_ofSegments]
  rfl

theorem Canonical.ofSegments_segments {path : String} (canonical : Canonical path) :
    ofSegments (segments path) = path := by
  rcases canonical with ⟨names, legal, rfl⟩
  rw [segments_ofSegments legal]

/-- A canonical path leads to itself, wherever it is read from. -/
theorem Canonical.resolve_eq {path : String} (canonical : Canonical path) (base : String) :
    resolve base path = path := by
  have absolute : isAbsolute path = true := by
    rcases canonical with ⟨names, -, rfl⟩
    exact isAbsolute_ofSegments names
  rw [resolve_of_absolute absolute, canonical.ofSegments_segments]

/-- No part is empty. -/
def Filled (path : String) : Prop :=
  ∀ part ∈ parts path, part ≠ ""

theorem Canonical.filled {path : String} (canonical : Canonical path) : Filled path := by
  intro part member
  rw [canonical.parts_eq_segments] at member
  exact (isSegment_of_mem_segments member).1

end Router.Path
