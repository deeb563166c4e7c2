import Router.Proofs.Glob.WellFormed

namespace Router.Glob

/-! ## Blame

A glob is refused for the first of its declarations that is out of order, whatever comes
after it. There is one cause of that, which decides what is reported as the culprit; and
although the message is chosen by nothing but the name and the culprit, it tells the
cause. -/

/-- The pieces of a glob that begin with a colon. The asterisk of a wildcard belongs to
none of them. -/
def declarations (source : String) : List String :=
  (Path.pieces (unstarred source)).filter fun piece => piece.toList.head? = some ':'

/-- What is declared by a piece that begins with a colon: the text behind the colon,
without the question mark at its end if there is one. -/
def nameOf (piece : String) : String :=
  let declaration := piece.toList.tail
  String.ofList
    (if declaration.getLast? = some '?' then declaration.dropLast else declaration)

/-- A colon, a name and perhaps a question mark. -/
def IsDeclaration (piece : String) : Prop :=
  ∃ (name : String) (optional : Bool),
    IsName name ∧ piece = ":" ++ name ++ if optional then "?" else ""

/-- Declarations, no two of which are of the same name. -/
def Orderly (pieces : List String) : Prop :=
  (∀ piece ∈ pieces, IsDeclaration piece) ∧ (pieces.map nameOf).Nodup

/-- Why a name cannot be declared. -/
inductive Cause where
  | empty
  | bad (character : Char)
  | duplicate

namespace Cause

/-- What is reported as the culprit. -/
def culprit : Cause → String
  | .empty | .duplicate => ""
  | .bad character => String.singleton character

/-- What there is to be said about a name in a glob. -/
def message (source name : String) : Cause → String
  | .empty => "Empty parameter name in route glob " ++ Text.quoted source
  | .bad character =>
      "Bad parameter name " ++ Text.quoted name ++
        " in route glob " ++ Text.quoted source ++
        ": unexpected character " ++ Text.quoted (String.singleton character)
  | .duplicate =>
      "Duplicate parameter name " ++ Text.quoted name ++
        " in route glob " ++ Text.quoted source

end Cause

/-- What is wrong with a name, declared behind others. -/
inductive Fault (earlier : List String) (name : String) : Cause → Prop
  | empty (nothing : name = "") : Fault earlier name .empty
  /-- The first character is not a letter. -/
  | first {character : Char} {rest : List Char}
      (split : name.toList = character :: rest) (wrong : ¬character.isAlpha) :
      Fault earlier name (.bad character)
  /-- The characters in front are a name by themselves, but neither a letter nor a digit
  comes next. -/
  | later {character : Char} {front rest : List Char}
      (split : name.toList = front ++ character :: rest)
      (named : IsName (String.ofList front)) (wrong : ¬character.isAlphanum) :
      Fault earlier name (.bad character)
  | duplicate (named : IsName name) (repeated : name ∈ earlier) :
      Fault earlier name .duplicate

/-! ### The name at fault -/

theorem isName_ofList_cons {first : Char} {rest : List Char} :
    IsName (String.ofList (first :: rest)) ↔ first.isAlpha ∧ rest.all Char.isAlphanum := by
  rw [IsName, String.toList_ofList]
  rfl

theorem misplaced?_eq_some_iff {characters : List Char} {character : Char} :
    misplaced? characters = some character ↔
      (∃ rest, characters = character :: rest ∧ ¬character.isAlpha) ∨
      ∃ front rest, characters = front ++ character :: rest ∧
        IsName (String.ofList front) ∧ ¬character.isAlphanum := by
  cases characters with
  | nil => simp [misplaced?]
  | cons first rest =>
      rw [misplaced?]
      split
      · next letter =>
          rw [List.find?_eq_some_iff_append]
          constructor
          · intro found
            rcases found with ⟨wrong, front, back, rfl, right⟩
            have named := isName_ofList_cons.mpr ⟨letter, by simpa using right⟩
            exact .inr ⟨first :: front, back, rfl, named, by simpa using wrong⟩
          · intro misplaced
            rcases misplaced with ⟨_, same, wrong⟩ | ⟨front, back, split, named, wrong⟩
            · cases same
              exact absurd letter wrong
            · cases front with
              | nil => cases named.1
              | cons head front =>
                  cases split
                  have right := (isName_ofList_cons.mp named).2
                  exact ⟨by simpa using wrong, front, back, rfl, by simpa using right⟩
      · next other =>
          constructor
          · intro found
            cases found
            exact .inl ⟨rest, rfl, other⟩
          · intro misplaced
            rcases misplaced with ⟨_, same, -⟩ | ⟨front, back, split, named, -⟩
            · cases same
              rfl
            · cases front with
              | nil => cases named.1
              | cons head front =>
                  cases split
                  exact absurd (isName_ofList_cons.mp named).1 other

section

variable {earlier : List String} {name : String}

theorem fault_bad_iff {character : Char} :
    Fault earlier name (.bad character) ↔ misplaced? name.toList = some character := by
  rw [misplaced?_eq_some_iff]
  constructor
  · intro fault
    cases fault with
    | @first _ rest split wrong => exact .inl ⟨rest, split, wrong⟩
    | @later _ front rest split named wrong => exact .inr ⟨front, rest, split, named, wrong⟩
  · intro misplaced
    rcases misplaced with ⟨rest, split, wrong⟩ | ⟨front, rest, split, named, wrong⟩
    · exact .first split wrong
    · exact .later split named wrong

theorem Fault.filled {cause : Cause} (fault : Fault earlier name cause)
    (nonempty : cause ≠ .empty) : name ≠ "" := by
  intro nothing
  cases fault with
  | empty => exact nonempty rfl
  | first split =>
      rw [nothing] at split
      cases split
  | later split =>
      rw [nothing] at split
      exact List.append_ne_nil_of_right_ne_nil _ (List.cons_ne_nil _ _) split.symm
  | duplicate named =>
      rw [nothing] at named
      cases named.1

theorem culprit?_eq_some_iff {culprit : String} :
    culprit? earlier name = some culprit ↔
      ∃ cause, Fault earlier name cause ∧ culprit = cause.culprit := by
  rw [culprit?]
  split
  · next nothing =>
      constructor
      · intro blamed
        cases blamed
        exact ⟨.empty, .empty nothing, rfl⟩
      · intro caused
        rcases caused with ⟨cause, fault, rfl⟩
        cases cause with
        | empty => rfl
        | bad | duplicate => exact absurd nothing (fault.filled (by simp))
  · next filled =>
      constructor
      · intro blamed
        split at blamed
        · next character misplaced =>
            cases blamed
            exact ⟨.bad character, fault_bad_iff.mpr misplaced, rfl⟩
        · next wellPlaced =>
            have named := (isName_iff_misplaced? filled).mpr wellPlaced
            split at blamed
            · next repeated =>
                cases blamed
                exact ⟨.duplicate, .duplicate named repeated, rfl⟩
            · cases blamed
      · intro caused
        rcases caused with ⟨cause, fault, rfl⟩
        cases cause with
        | empty =>
            cases fault with
            | empty nothing => exact absurd nothing filled
        | bad character =>
            rw [fault_bad_iff.mp fault]
            rfl
        | duplicate =>
            cases fault with
            | duplicate named repeated =>
                rw [(isName_iff_misplaced? filled).mp named]
                exact if_pos repeated

/-- The name and the culprit are enough to tell the cause from. -/
theorem Fault.message {cause : Cause} (fault : Fault earlier name cause) (source : String) :
    GlobError.message { glob := source, parameter := name, culprit := cause.culprit } =
      cause.message source name := by
  cases cause with
  | empty =>
      cases fault with
      | empty nothing => exact if_pos nothing
  | bad character =>
      have shown : String.singleton character ≠ "" := by
        simp [← String.toList_inj]
      rw [GlobError.message, if_neg (fault.filled (by simp))]
      exact if_neg shown
  | duplicate =>
      rw [GlobError.message, if_neg (fault.filled (by simp))]
      exact if_pos rfl

end

/-! ### The first fault -/

theorem fault?_eq_some_iff {seen names : List String} {name culprit : String} :
    fault? seen names = some (name, culprit) ↔
      ∃ earlier later, names = earlier ++ name :: later ∧ fault? seen earlier = none ∧
        culprit? (earlier.reverse ++ seen) name = some culprit := by
  constructor
  · intro fault
    induction names generalizing seen with
    | nil => cases fault
    | cons first rest induction =>
        rw [fault?] at fault
        split at fault
        · next blamed =>
            cases fault
            exact ⟨[], rest, rfl, rfl, blamed⟩
        · next spared =>
            rcases induction fault with ⟨earlier, later, rfl, sound, blamed⟩
            refine ⟨first :: earlier, later, rfl, ?_, ?_⟩
            · rw [fault?, spared]
              exact sound
            · rwa [List.reverse_cons, List.append_assoc, List.singleton_append]
  · intro split
    rcases split with ⟨earlier, later, rfl, sound, blamed⟩
    rw [fault?_append, sound, Option.none_or, fault?, blamed]

/-- It does not matter in which order names were declared before. -/
theorem fault?_nil_eq_some_iff {names : List String} {name culprit : String} :
    fault? [] names = some (name, culprit) ↔
      ∃ earlier later, names = earlier ++ name :: later ∧ Declarable earlier ∧
        culprit? earlier name = some culprit := by
  rw [fault?_eq_some_iff]
  simp only [fault?_nil_eq_none_iff, List.append_nil, culprit?, List.mem_reverse]

theorem not_declarable_concat {names : List String} {name culprit : String}
    (blamed : culprit? names name = some culprit) : ¬Declarable (names ++ [name]) := by
  intro declarable
  rcases declarable_append.mp declarable with ⟨-, last, apart⟩
  have named : IsName name := (declarable_cons.mp last).1
  have fresh : name ∉ names := fun repeated =>
    apart name repeated (List.mem_singleton_self name)
  rw [culprit?_eq_none_iff.mpr ⟨named, fresh⟩] at blamed
  cases blamed

/-! ### Declarations and names -/

section

variable {piece : String} {pieces : List String}

theorem ofPiece_opened (opened : piece.toList.head? = some ':') :
    ∃ optional, Segment.ofPiece piece = .parameter (nameOf piece) optional := by
  rcases List.head?_eq_some_iff.mp opened with ⟨declaration, characters⟩
  rw [ofPiece_of_colon characters, nameOf, characters, List.tail_cons]
  split
  · exact ⟨true, rfl⟩
  · exact ⟨false, rfl⟩

theorem isDeclaration_iff (opened : piece.toList.head? = some ':') :
    IsDeclaration piece ↔ IsName (nameOf piece) := by
  rcases ofPiece_opened opened with ⟨marked, read⟩
  constructor
  · intro declaration
    rcases declaration with ⟨name, optional, named, spelled⟩
    have declared := ofPiece_declaration named optional
    rw [← spelled, read] at declared
    cases declared
    exact named
  · intro named
    have spelled := value_ofPiece piece
    rw [read] at spelled
    exact ⟨nameOf piece, marked, named, spelled.symm⟩

theorem orderly_iff (opened : ∀ piece ∈ pieces, piece.toList.head? = some ':') :
    Orderly pieces ↔ Declarable (pieces.map nameOf) := by
  rw [Orderly, Declarable, List.forall_mem_map]
  exact and_congr_left fun _ => forall₂_congr fun piece member =>
    isDeclaration_iff (opened piece member)

end

/-- The names that a glob declares are those of its declarations. -/
theorem declaredNames_read (source : String) :
    declaredNames (read source).segments = (declarations source).map nameOf := by
  rw [segments_read, declarations]
  induction Path.pieces (unstarred source) with
  | nil => rfl
  | cons piece pieces induction =>
      by_cases opened : piece.toList.head? = some ':'
      · have filled : piece ≠ "" := by
          intro empty
          rw [empty] at opened
          cases opened
        rcases ofPiece_opened opened with ⟨optional, read⟩
        rw [List.filter_cons_of_pos (by simpa using filled),
          List.filter_cons_of_pos (by simpa using opened), List.map_cons, List.map_cons, read,
          ← induction]
        rfl
      · simp only [List.filter_cons, opened, decide_false, Bool.false_eq_true, if_false,
          ← induction]
        split
        · rw [List.map_cons, ofPiece_of_not_isParameter opened]
          rfl
        · rfl

/-- The first declarations of a glob are in order exactly if their names can be declared. -/
theorem orderly_iff_of_isPrefix {source : String} {front : List String}
    (before : front <+: declarations source) :
    Orderly front ↔ Declarable (front.map nameOf) :=
  orderly_iff fun _ member =>
    of_decide_eq_true (List.mem_filter.mp (before.subset member)).2

/-- A glob compiles exactly if its declarations are in order: each is a colon, a letter
followed by letters and digits, and a question mark or not, and no two are of the same
name. Otherwise it is refused for the first declaration that is out of order. The name of
this one is reported, and as the culprit the first character that the name may not hold,
or nothing if the name is empty or was declared before. Which of these it is can be told
from the message. -/
theorem compile_blames_first (source : String) :
    ((∃ glob, compile source = .ok glob) ↔ Orderly (declarations source)) ∧
    ∀ error, compile source = .error error ↔
      ∃ earlier piece later cause,
        declarations source = earlier ++ piece :: later ∧
        Orderly earlier ∧ ¬Orderly (earlier ++ [piece]) ∧
        Fault (earlier.map nameOf) (nameOf piece) cause ∧
        error = { glob := source, parameter := nameOf piece, culprit := cause.culprit } ∧
        error.message = cause.message source (nameOf piece) := by
  constructor
  · rw [compiles_iff, declaredNames_read, orderly_iff_of_isPrefix List.prefix_rfl]
  · intro error
    rw [compile_eq_error_iff, declaredNames_read, fault?_nil_eq_some_iff]
    constructor
    · intro refused
      rcases refused with ⟨⟨_, _, names, declarable, blamed⟩, rfl⟩
      rcases List.map_eq_append_iff.mp names with ⟨earlier, back, split, rfl, backNames⟩
      rcases List.map_eq_cons_iff.mp backNames with ⟨piece, later, rfl, named, -⟩
      have before : earlier <+: declarations error.glob := ⟨piece :: later, split.symm⟩
      have concatBefore : earlier ++ [piece] <+: declarations error.glob := by
        rw [split]
        exact ⟨later, List.append_assoc ..⟩
      rw [← named] at blamed
      rcases culprit?_eq_some_iff.mp blamed with ⟨cause, fault, culprit⟩
      have reported : error =
          { glob := error.glob, parameter := nameOf piece, culprit := cause.culprit } := by
        rw [named, ← culprit]
      refine ⟨earlier, piece, later, cause, split, ?_, ?_, fault, reported, ?_⟩
      · exact (orderly_iff_of_isPrefix before).mpr declarable
      · rw [orderly_iff_of_isPrefix concatBefore, List.map_append]
        exact not_declarable_concat blamed
      · rw [reported]
        exact fault.message error.glob
    · intro found
      rcases found with ⟨earlier, piece, later, cause, split, orderly, -, fault, rfl, -⟩
      have before : earlier <+: declarations source := ⟨piece :: later, split.symm⟩
      have names : (declarations source).map nameOf =
          earlier.map nameOf ++ nameOf piece :: later.map nameOf := by
        rw [split, List.map_append, List.map_cons]
      have blamed := culprit?_eq_some_iff.mpr ⟨cause, fault, rfl⟩
      exact ⟨⟨_, _, names, (orderly_iff_of_isPrefix before).mp orderly, blamed⟩, rfl⟩

/-- A question mark too many is a character out of place, and the repeated name behind it
does not matter. -/
example : compile "/:a/:b??/:a" =
    .error { glob := "/:a/:b??/:a", parameter := "b?", culprit := "?" } := by
  decide +kernel

end Router.Glob
