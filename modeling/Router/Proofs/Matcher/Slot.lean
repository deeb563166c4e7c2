import Router.Matcher
import Router.Proofs.Except
import Router.Proofs.Glob.Declaration

namespace Router

/-! ## Slots

Whatever a matcher was asked before, it answers as one that was asked nothing yet. Its
slot is empty or holds a glob exactly as the text of that glob compiles, and this is all
that the past leaves behind. -/

namespace Matcher

/-- The slot is empty or holds what its own text compiles to. -/
def Sound (matcher : Matcher) : Prop :=
  ∀ glob ∈ matcher.cached, Glob.compile glob.source = .ok glob

theorem sound_new : ({} : Matcher).Sound :=
  fun _ member => nomatch member

/-- What compiling a text can do to a matcher with a sound slot. -/
inductive Effect (matcher : Matcher) (source : String) : Reply Glob → Prop
  | reused {glob : Glob} (compiles : Glob.compile source = .ok glob)
      (held : matcher.cached = some glob) :
      Effect matcher source { result := .ok glob, matcher }
  | refused {error : GlobError} (faulty : Glob.compile source = .error error) :
      Effect matcher source { result := .error error, matcher }
  | filled {glob : Glob} (compiles : Glob.compile source = .ok glob)
      (different : ∀ old ∈ matcher.cached, old.source ≠ source) :
      Effect matcher source
        { result := .ok glob
          matcher := { cached := some glob, compilations := matcher.compilations + 1 }
          records := (matcher.cached.map fun old => .recompiled source old.source).toList }

theorem effect_refill {matcher : Matcher} {source : String}
    (different : ∀ old ∈ matcher.cached, old.source ≠ source) :
    Effect matcher source (matcher.refill source
      (matcher.cached.map fun old => .recompiled source old.source).toList) := by
  unfold refill
  split
  · next error faulty => exact .refused faulty
  · next glob compiles => exact .filled compiles different

/-- Every compilation with a sound slot does one of the things listed. -/
theorem effect_compile {matcher : Matcher} (sound : matcher.Sound) (source : String) :
    Effect matcher source (matcher.compile source) := by
  by_cases held : ∃ old ∈ matcher.cached, old.source = source
  · rcases held with ⟨old, cached, same⟩
    have compiles := sound old cached
    rw [same] at compiles
    have reuses : matcher.compile source = { result := .ok old, matcher } := by
      rw [compile, cached]
      exact if_pos same
    rw [reuses]
    exact .reused compiles cached
  · have different : ∀ old ∈ matcher.cached, old.source ≠ source :=
      fun old cached same => held ⟨old, cached, same⟩
    have refills : matcher.compile source = matcher.refill source
        (matcher.cached.map fun old => .recompiled source old.source).toList := by
      cases cached : matcher.cached with
      | none => rw [compile, cached]; rfl
      | some old =>
          rw [compile, cached]
          exact if_neg (different old cached)
    rw [refills]
    exact effect_refill different

section

variable {matcher : Matcher} {source : String} {reply : Reply Glob}

theorem Effect.result (effect : Effect matcher source reply) :
    reply.result = Glob.compile source := by
  cases effect with
  | reused compiles | filled compiles => exact compiles.symm
  | refused faulty => exact faulty.symm

theorem Effect.sound (effect : Effect matcher source reply) (sound : matcher.Sound) :
    reply.matcher.Sound := by
  cases effect with
  | reused | refused => exact sound
  | filled compiles =>
      intro glob held
      cases held
      rw [Glob.source_of_compile compiles]
      exact compiles

theorem Effect.cached (effect : Effect matcher source reply) {glob : Glob}
    (compiles : Glob.compile source = .ok glob) : reply.matcher.cached = some glob := by
  have result := effect.result.trans compiles
  cases effect with
  | reused _ held => cases result; exact held
  | refused => cases result
  | filled => cases result; rfl

theorem Effect.matcher_of_error (effect : Effect matcher source reply) {error : GlobError}
    (faulty : Glob.compile source = .error error) : reply.matcher = matcher := by
  cases effect with
  | reused | refused => rfl
  | filled compiles =>
      rw [faulty] at compiles
      cases compiles

/-- A glob that compiles is found in the slot or put there as a new one. -/
theorem Effect.compilations_eq_iff (effect : Effect matcher source reply) {glob : Glob}
    (compiles : Glob.compile source = .ok glob) :
    reply.matcher.compilations = matcher.compilations ↔
      ∃ old ∈ matcher.cached, old.source = source := by
  cases effect with
  | reused compiles held =>
      exact iff_of_true rfl ⟨_, held, Glob.source_of_compile compiles⟩
  | refused faulty =>
      rw [compiles] at faulty
      cases faulty
  | filled compiles different =>
      refine iff_of_false (Nat.succ_ne_self _) ?_
      intro shared
      rcases shared with ⟨old, held, same⟩
      exact different old held same

theorem Effect.mem_records_iff (effect : Effect matcher source reply) {record : Record} :
    record ∈ reply.records ↔
      (∃ glob, Glob.compile source = .ok glob) ∧
      ∃ old ∈ matcher.cached, old.source ≠ source ∧
        record = .recompiled source old.source := by
  cases effect with
  | reused compiles held =>
      refine iff_of_false List.not_mem_nil ?_
      intro recorded
      rcases recorded with ⟨-, old, cached, different, -⟩
      rw [held] at cached
      cases cached
      exact different (Glob.source_of_compile compiles)
  | refused faulty =>
      refine iff_of_false List.not_mem_nil ?_
      intro recorded
      rcases recorded with ⟨⟨glob, compiles⟩, -⟩
      rw [faulty] at compiles
      cases compiles
  | filled compiles different =>
      simp only [Option.mem_toList, Option.mem_def, Option.map_eq_some_iff]
      constructor
      · intro recorded
        rcases recorded with ⟨old, held, rfl⟩
        exact ⟨⟨_, compiles⟩, old, held, different old held, rfl⟩
      · intro replaced
        rcases replaced with ⟨-, old, held, -, rfl⟩
        exact ⟨old, held, rfl⟩

theorem Effect.length_records_le (effect : Effect matcher source reply) :
    reply.records.length ≤ 1 := by
  cases effect with
  | reused | refused => exact Nat.zero_le 1
  | filled =>
      cases matcher.cached with
      | none => exact Nat.zero_le 1
      | some old => exact Nat.le_refl 1

end

/-! ### Requests -/

/-- The text that a request wants compiled. -/
def Request.wanted : Request → String
  | .compile source => source
  | .matchPath source _ relative => Path.resolve relative source

/-- What a request makes of the glob it wanted. -/
def Request.use : Request → Glob → Answer
  | .compile _, glob => .glob glob
  | .matchPath _ path _, glob => .info (glob.matchPath? path)

theorem serve_eq (matcher : Matcher) (request : Request) :
    matcher.serve request =
      { result := (matcher.compile request.wanted).result.map request.use
        matcher := (matcher.compile request.wanted).matcher
        records := (matcher.compile request.wanted).records } := by
  cases request with
  | compile source => rfl
  | matchPath source path relative =>
      cases result : (matcher.compile (Path.resolve relative source)).result <;>
        simp [serve, matchPath, Request.wanted, Request.use, result, Except.map]

theorem Sound.serve {matcher : Matcher} (sound : matcher.Sound) (request : Request) :
    (matcher.serve request).matcher.Sound := by
  rw [serve_eq]
  exact (effect_compile sound request.wanted).sound sound

theorem Sound.result_serve {matcher : Matcher} (sound : matcher.Sound) (request : Request) :
    (matcher.serve request).result = (Glob.compile request.wanted).map request.use := by
  rw [serve_eq, (effect_compile sound request.wanted).result]

theorem Sound.result_matchPath {matcher : Matcher} (sound : matcher.Sound)
    (source path relative : String) :
    (matcher.matchPath source path relative).result =
      (Glob.compile (Path.resolve relative source)).map (·.matchPath? path) := by
  rw [matchPath, (effect_compile sound _).result]

theorem Sound.compiles_iff {matcher : Matcher} (sound : matcher.Sound)
    {source path relative : String} :
    (∃ answer, (matcher.matchPath source path relative).result = .ok answer) ↔
      Glob.Declarable
        (Glob.declaredNames (Glob.read (Path.resolve relative source)).segments) := by
  rw [sound.result_matchPath, Except.exists_map_eq_ok_iff, Glob.compiles_iff]

/-- A sound matcher matches a path if the resolved glob can be compiled and its segments
match the parts. -/
theorem Sound.matchPath_eq_some_iff {matcher : Matcher} (sound : matcher.Sound)
    {source path relative : String} {info : RouteInfo} :
    (matcher.matchPath source path relative).result = .ok (some info) ↔
      let glob := Glob.read (Path.resolve relative source)
      Glob.Declarable (Glob.declaredNames glob.segments) ∧
        ∃ capture, Glob.matchParts? glob.wildcard glob.segments (Path.parts path) =
          some capture ∧ capture.info = info := by
  rw [sound.result_matchPath, Except.map_eq_ok_iff]
  constructor
  · intro answered
    rcases answered with ⟨glob, compiles, matched⟩
    rcases Glob.compile_eq_ok_iff.mp compiles with ⟨rfl, declarable⟩
    exact ⟨declarable, Option.map_eq_some_iff.mp matched⟩
  · intro possible
    rcases possible with ⟨declarable, matched⟩
    exact ⟨_, Glob.compile_eq_ok_iff.mpr ⟨rfl, declarable⟩,
      Option.map_eq_some_iff.mpr matched⟩

end Matcher

namespace Matchers

variable {Key : Type} [DecidableEq Key]

@[simp] theorem get_insert_self (matchers : Matchers Key) (key : Key) (matcher : Matcher) :
    Matchers.get (matchers.insert key matcher) key = matcher := by
  rw [get, Bindings.find?_insert_self, Option.getD_some]

theorem get_insert_of_ne (matchers : Matchers Key) {key other : Key}
    (different : other ≠ key) (matcher : Matcher) :
    Matchers.get (matchers.insert key matcher) other = matchers.get other := by
  rw [get, Bindings.find?_insert_of_ne _ different, get]

/-- The matchers once some requests have been served one after the other. -/
def after (matchers : Matchers Key) (calls : List (Key × Matcher.Request)) : Matchers Key :=
  calls.foldl
    (fun matchers call =>
      matchers.insert call.1 (serve matchers call.1 call.2).reply.matcher) matchers

theorem after_append (matchers : Matchers Key) (calls : List (Key × Matcher.Request))
    (key : Key) (request : Matcher.Request) :
    matchers.after (calls ++ [(key, request)]) =
      (matchers.after calls).insert key
        ((matchers.after calls).serve key request).reply.matcher := by
  rw [after, List.foldl_append]
  rfl

theorem getElem?_serveAll (matchers : Matchers Key)
    (earlier later : List (Key × Matcher.Request)) (key : Key)
    (request : Matcher.Request) :
    (serveAll matchers (earlier ++ (key, request) :: later))[earlier.length]? =
      some ((matchers.after earlier).serve key request) := by
  induction earlier generalizing matchers with
  | nil => rfl
  | cons call earlier induction =>
      rw [List.cons_append, serveAll, List.length_cons, List.getElem?_cons_succ, induction]
      rfl

theorem sound_after {matchers : Matchers Key} (sound : ∀ key, (matchers.get key).Sound)
    (calls : List (Key × Matcher.Request)) (key : Key) :
    ((matchers.after calls).get key).Sound := by
  induction calls generalizing matchers with
  | nil => exact sound key
  | cons call calls induction =>
      apply induction
      intro other
      by_cases same : other = call.1
      · rw [same, get_insert_self]
        exact (sound call.1).serve call.2
      · rw [get_insert_of_ne _ same]
        exact sound other

/-- Each of many matchers serves every request as a new matcher would. Afterwards all
slots are sound. A success leaves in the slot of its matcher the glob it wanted compiled,
which is the one found there if and only if it was there; a failure leaves the slot as it
was, and the slots of other matchers never change. A record tells of each glob that was
replaced by a different one, and of nothing else. -/
theorem serveAll_as_new (earlier later : List (Key × Matcher.Request)) (key : Key)
    (request : Matcher.Request) :
    let matchers := after {} earlier
    let next := after {} (earlier ++ [(key, request)])
    ∃ service,
      (serveAll {} (earlier ++ (key, request) :: later))[earlier.length]? = some service ∧
      service.before = matchers.get key ∧ service.reply.matcher = next.get key ∧
      service.reply.result = (Matcher.serve {} request).result ∧
      (∀ other, (next.get other).Sound) ∧
      (∀ answer, service.reply.result = .ok answer →
        (∃ glob, Glob.compile request.wanted = .ok glob ∧
          (next.get key).cached = some glob) ∧
        (service.reused ↔
          ∃ old ∈ (matchers.get key).cached, old.source = request.wanted)) ∧
      (∀ error, service.reply.result = .error error →
        next.get key = matchers.get key) ∧
      (∀ other, other ≠ key → next.get other = matchers.get other) ∧
      service.reply.records.length ≤ 1 ∧
      ∀ record, record ∈ service.reply.records ↔
        (∃ answer, service.reply.result = .ok answer) ∧
        ∃ old ∈ (matchers.get key).cached, old.source ≠ request.wanted ∧
          record = .recompiled request.wanted old.source := by
  intro matchers next
  let matcher := matchers.get key
  have fresh : ∀ other, (Matchers.get ({} : Matchers Key) other).Sound :=
    fun _ => Matcher.sound_new
  have sound : matcher.Sound := sound_after fresh earlier key
  have effect := Matcher.effect_compile sound request.wanted
  have served := Matcher.serve_eq matcher request
  have result := sound.result_serve request
  have nextAt : next = matchers.insert key (matcher.serve request).matcher :=
    after_append {} earlier key request
  have nextKey : next.get key = (matcher.compile request.wanted).matcher := by
    rw [nextAt, get_insert_self, served]
  refine ⟨matchers.serve key request, getElem?_serveAll {} earlier later key request, rfl,
    ?_, ?_, sound_after fresh _, ?_, ?_, ?_, ?_, ?_⟩
  · rw [nextAt, get_insert_self]
    rfl
  · exact result.trans (Matcher.sound_new.result_serve request).symm
  · intro answer success
    rcases Except.map_eq_ok_iff.mp (result.symm.trans success) with ⟨glob, compiles, -⟩
    refine ⟨⟨glob, compiles, ?_⟩, ?_⟩
    · rw [nextKey]
      exact effect.cached compiles
    · rw [← effect.compilations_eq_iff compiles, ← nextKey, Service.reused, beq_iff_eq,
        nextAt, get_insert_self]
      rfl
  · intro error failure
    rw [nextKey]
    exact effect.matcher_of_error (Except.map_eq_error_iff.mp (result.symm.trans failure))
  · intro other different
    rw [nextAt, get_insert_of_ne _ different]
  · change (matcher.serve request).records.length ≤ 1
    rw [served]
    exact effect.length_records_le
  · intro record
    change record ∈ (matcher.serve request).records ↔
      (∃ answer, (matcher.serve request).result = .ok answer) ∧ _
    rw [result, Except.exists_map_eq_ok_iff, served]
    exact effect.mem_records_iff

/-- The same text read from different bases shares the slot, also across a failure. -/
theorem serveAll_as_new_shared :
    ((serveAll {} [(0, .compile "/a/b"), (0, .compile "/:1"),
      (0, .matchPath "b" "/a/b" "/a")])[2]?).map Service.reused = some true := by
  rcases serveAll_as_new [(0, .compile "/a/b"), (0, .compile "/:1")] [] 0
    (.matchPath "b" "/a/b" "/a") with ⟨service, served, before, -, result, -, success, -⟩
  have matched : (Matcher.serve {} (.matchPath "b" "/a/b" "/a")).result =
      .ok (.info (some { matchedPath := "/a/b" })) := by
    rfl
  have reused := (success _ (result.trans matched)).2.mpr
    ⟨Glob.read "/a/b", by decide +kernel, by decide +kernel⟩
  exact (congrArg (Option.map Service.reused) served).trans (congrArg some reused)

end Matchers

end Router
