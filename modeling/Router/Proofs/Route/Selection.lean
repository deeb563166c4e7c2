import Router.Proofs.Matcher.Slot
import Router.Route

namespace Router

/-! ## Selection

Of several routes the first one wins that has anything to say to a path, be it content or
a failure. What a route says depends on its glob and its validator alone. The matchers
that the search comes by remember the globs that they were asked for, as after any other
requests, and those that it does not come by are left alone. -/

namespace Matcher

/-- The slot holds what was compiled last, or what it held before if nothing was. -/
theorem Sound.cached_serve {matcher : Matcher} (sound : matcher.Sound) (request : Request) :
    (matcher.serve request).matcher.cached =
      (Glob.compile request.wanted).toOption.or matcher.cached := by
  have effect := effect_compile sound request.wanted
  rw [serve_eq]
  cases compiles : Glob.compile request.wanted with
  | ok glob => exact effect.cached compiles
  | error error => exact congrArg cached (effect.matcher_of_error compiles)

end Matcher

namespace Matchers

variable {Key : Type} [DecidableEq Key]

/-- What one call compiles for a key, if anything. -/
def compiledBy (key : Key) (call : Key × Matcher.Request) : Option Glob :=
  if call.1 = key then (Glob.compile call.2.wanted).toOption else none

/-- The glob that was compiled last for a key in a run of calls. -/
def lastCompiled? (key : Key) (calls : List (Key × Matcher.Request)) : Option Glob :=
  (calls.filterMap (compiledBy key)).getLast?

theorem lastCompiled?_cons (key : Key) (call : Key × Matcher.Request)
    (calls : List (Key × Matcher.Request)) :
    lastCompiled? key (call :: calls) = (lastCompiled? key calls).or (compiledBy key call) := by
  cases compiled : compiledBy key call with
  | none => rw [lastCompiled?, List.filterMap_cons_none compiled, Option.or_none, lastCompiled?]
  | some glob =>
      rw [lastCompiled?, List.filterMap_cons_some compiled, ← List.singleton_append,
        List.getLast?_append, lastCompiled?]
      rfl

theorem cached_serve {matchers : Matchers Key} (sound : ∀ key, (matchers.get key).Sound)
    (call : Key × Matcher.Request) (key : Key) :
    ((matchers.after [call]).get key).cached =
      (compiledBy key call).or (matchers.get key).cached := by
  rw [compiledBy]
  split
  · next same =>
      subst same
      exact (congrArg Matcher.cached (get_insert_self matchers call.1 _)).trans
        ((sound call.1).cached_serve call.2)
  · next different =>
      exact congrArg Matcher.cached
        (get_insert_of_ne matchers (fun same => different same.symm) _)

theorem cached_after {matchers : Matchers Key} (sound : ∀ key, (matchers.get key).Sound)
    (calls : List (Key × Matcher.Request)) (key : Key) :
    ((matchers.after calls).get key).cached =
      (lastCompiled? key calls).or (matchers.get key).cached := by
  induction calls generalizing matchers with
  | nil => rfl
  | cons call calls induction =>
      have later := induction (sound_after sound [call])
      rw [cached_serve sound, ← Option.or_assoc, ← lastCompiled?_cons] at later
      exact later

theorem get_after_of_notMem {calls : List (Key × Matcher.Request)} {key : Key}
    (uncalled : key ∉ calls.map (·.1)) (matchers : Matchers Key) :
    (matchers.after calls).get key = matchers.get key := by
  induction calls generalizing matchers with
  | nil => rfl
  | cons call calls induction =>
      rw [List.map_cons, List.mem_cons, not_or] at uncalled
      exact (induction uncalled.2 _).trans (get_insert_of_ne matchers uncalled.1 _)

end Matchers

namespace Route

variable {Failure Value : Type}

/-- How the glob of a route, read from a base, matches a path. -/
def sight (route : Route Failure Value) (path relative : String) :
    Except GlobError (Option RouteInfo) :=
  (Glob.compile (Path.resolve relative route.glob)).map (·.matchPath? path)

/-- What a route makes of a match. -/
def validate (route : Route Failure Value) (info : RouteInfo) :
    Except (RouteFailure Failure) (Option (Content Value)) :=
  match route.validator with
  | none => .ok (some (.info info))
  | some validator => (validator.check info).mapError .validator

/-- What a route has to say to a path: the error of its glob, if that does not compile,
and otherwise what it makes of the match, if there is one. -/
def verdict (route : Route Failure Value) (path relative : String) :
    Except (RouteFailure Failure) (Option (Content Value)) := do
  match ← (route.sight path relative).mapError .glob with
  | none => return none
  | some info => route.validate info

/-- The validator that is called for a path, by its label. -/
def consulted? (route : Route Failure Value) (path relative : String) : Option Nat := do
  let matched ← (route.sight path relative).toOption
  let _ ← matched
  let validator ← route.validator
  return validator.label

/-- What a route asks of its matcher. -/
def request (route : Route Failure Value) (path relative : String) : Matcher.Request :=
  .matchPath route.glob path relative

theorem result_matchPath {matcher : Matcher} (sound : matcher.Sound)
    (route : Route Failure Value) (path relative : String) :
    (route.matchPath matcher path relative).result =
      (route.sight path relative).mapError RouteFailure.glob := by
  rw [matchPath, sound.result_matchPath, sight]

/-- With a sound matcher a route says what its glob and its validator say. -/
theorem result_resolve {matcher : Matcher} (sound : matcher.Sound)
    (route : Route Failure Value) (path relative : String) :
    (route.resolve matcher path relative).result = route.verdict path relative := by
  rw [resolve, result_matchPath sound, verdict]
  cases route.sight path relative with
  | error error => rfl
  | ok matched =>
      cases matched with
      | none => rfl
      | some info =>
          change _ = route.validate info
          rw [validate]
          cases route.validator <;> rfl

theorem consulted_resolve {matcher : Matcher} (sound : matcher.Sound)
    (route : Route Failure Value) (path relative : String) :
    (route.resolve matcher path relative).consulted =
      (route.consulted? path relative).toList := by
  rw [resolve, result_matchPath sound, consulted?]
  cases route.sight path relative with
  | error error => rfl
  | ok matched =>
      cases matched with
      | none => rfl
      | some info => cases route.validator <;> rfl

/-- Only its matcher remembers anything of what a route is asked. -/
theorem matcher_resolve (route : Route Failure Value) (matcher : Matcher)
    (path relative : String) :
    (route.resolve matcher path relative).matcher =
      (matcher.serve (route.request path relative)).matcher := by
  have left : (route.matchPath matcher path relative).matcher =
      (matcher.serve (route.request path relative)).matcher := rfl
  rw [← left]
  simp only [resolve]
  split <;> rfl

/-! ### Searching -/

variable {Key : Type}

/-- What routes ask of their matchers, one after the other. -/
def requests (routes : List (Key × Route Failure Value)) (path relative : String) :
    List (Key × Matcher.Request) :=
  routes.map fun entry => (entry.1, entry.2.request path relative)

/-- The validators that are called on the way along some routes, by their labels. -/
def consulted (routes : List (Key × Route Failure Value)) (path relative : String) :
    List Nat :=
  routes.filterMap fun entry => entry.2.consulted? path relative

theorem consulted_cons (entry : Key × Route Failure Value)
    (routes : List (Key × Route Failure Value)) (path relative : String) :
    consulted (entry :: routes) path relative =
      (entry.2.consulted? path relative).toList ++ consulted routes path relative := by
  cases called : entry.2.consulted? path relative with
  | none => exact List.filterMap_cons_none called
  | some label => exact List.filterMap_cons_some called

variable [DecidableEq Key]

/-- Whether a search came by these routes, one after the other, and by no others: of their
validators those were called whose routes match, and the matchers are left as they are
after what the routes ask of them. -/
structure Selection.CameBy (selection : Selection Key Failure (Option (Key × Content Value)))
    (matchers : Matchers Key) (routes : List (Key × Route Failure Value))
    (path relative : String) : Prop where
  consulted : selection.consulted = Route.consulted routes path relative
  matchers : selection.matchers = matchers.after (requests routes path relative)

section

variable {matchers : Matchers Key} {path relative : String}
  {before rest routes : List (Key × Route Failure Value)}

theorem insert_matcher_resolve (matchers : Matchers Key) (key : Key)
    (route : Route Failure Value) (path relative : String) :
    matchers.insert key (route.resolve (matchers.get key) path relative).matcher =
      matchers.after (requests [(key, route)] path relative) := by
  rw [matcher_resolve]
  rfl

/-- A search ends at a route that has something to say. -/
theorem firstMatch_of_settled {key : Key} {route : Route Failure Value}
    (sound : (matchers.get key).Sound) (settled : route.verdict path relative ≠ .ok none) :
    let selection := firstMatch path relative matchers ((key, route) :: rest)
    selection.result = (route.verdict path relative).map (·.map (key, ·)) ∧
      selection.CameBy matchers [(key, route)] path relative := by
  have said := result_resolve sound route path relative
  have left := insert_matcher_resolve matchers key route path relative
  have called : consulted [(key, route)] path relative =
      (route.resolve (matchers.get key) path relative).consulted := by
    rw [consulted_resolve sound, consulted_cons]
    exact List.append_nil _
  simp only [firstMatch]
  rw [← said] at settled ⊢
  generalize route.resolve (matchers.get key) path relative = visit at *
  rcases visit with ⟨result, matcher, consulted, records⟩
  cases result with
  | error failure => exact ⟨rfl, called.symm, left⟩
  | ok content =>
      cases content with
      | none => exact absurd rfl settled
      | some content => exact ⟨rfl, called.symm, left⟩

/-- A search goes on behind a route that has nothing to say. -/
theorem firstMatch_of_passed {entry : Key × Route Failure Value}
    (sound : (matchers.get entry.1).Sound)
    (passed : entry.2.verdict path relative = .ok none) :
    let selection := firstMatch path relative matchers (entry :: rest)
    let later := firstMatch path relative
      (matchers.after (requests [entry] path relative)) rest
    selection.result = later.result ∧ selection.matchers = later.matchers ∧
      selection.consulted = (entry.2.consulted? path relative).toList ++ later.consulted := by
  rcases entry with ⟨key, route⟩
  have said := (result_resolve sound route path relative).trans passed
  have called := consulted_resolve sound route path relative
  simp only [firstMatch]
  rw [← insert_matcher_resolve, ← called]
  generalize route.resolve (matchers.get key) path relative = visit at *
  rcases visit with ⟨result, matcher, consulted, records⟩
  cases said
  exact ⟨rfl, rfl, rfl⟩

theorem firstMatch_append (sound : ∀ key, (matchers.get key).Sound)
    (passed : ∀ entry ∈ before, entry.2.verdict path relative = .ok none)
    (later : (firstMatch path relative
      (matchers.after (requests before path relative)) rest).CameBy
        (matchers.after (requests before path relative)) routes path relative) :
    let selection := firstMatch path relative matchers (before ++ rest)
    selection.result = (firstMatch path relative
      (matchers.after (requests before path relative)) rest).result ∧
        selection.CameBy matchers (before ++ routes) path relative := by
  induction before generalizing matchers with
  | nil => exact ⟨rfl, later⟩
  | cons entry before induction =>
      rcases List.forall_mem_cons.mp passed with ⟨first, others⟩
      rcases induction (Matchers.sound_after sound (requests [entry] path relative)) others later
        with ⟨result, consulted, left⟩
      rcases firstMatch_of_passed (sound entry.1) first with
        ⟨sameResult, sameMatchers, called⟩
      rw [consulted, ← consulted_cons] at called
      exact ⟨sameResult.trans result, called, sameMatchers.trans left⟩

theorem firstMatch_append_cons {key : Key} {route : Route Failure Value}
    (sound : ∀ key, (matchers.get key).Sound)
    (passed : ∀ entry ∈ before, entry.2.verdict path relative = .ok none)
    (settled : route.verdict path relative ≠ .ok none) :
    let selection := firstMatch path relative matchers (before ++ (key, route) :: rest)
    selection.result = (route.verdict path relative).map (·.map (key, ·)) ∧
      selection.CameBy matchers (before ++ [(key, route)]) path relative := by
  have soundLater := Matchers.sound_after sound (requests before path relative)
  rcases firstMatch_of_settled (soundLater key) settled with ⟨result, cameBy⟩
  rcases firstMatch_append sound passed cameBy with ⟨same, cameBy⟩
  exact ⟨same.trans result, cameBy⟩

theorem firstMatch_of_all_passed (sound : ∀ key, (matchers.get key).Sound)
    (passed : ∀ entry ∈ routes, entry.2.verdict path relative = .ok none) :
    let selection := firstMatch path relative matchers routes
    selection.result = .ok none ∧ selection.CameBy matchers routes path relative := by
  have ended : (firstMatch path relative (matchers.after (requests routes path relative))
      []).CameBy (matchers.after (requests routes path relative))
        ([] : List (Key × Route Failure Value)) path relative := ⟨rfl, rfl⟩
  have whole := firstMatch_append sound passed ended
  rw [List.append_nil] at whole
  exact whole

end

/-- Whatever matchers were asked before, a search takes the first route that has something
to say and answers with what this route says, or with nothing if all routes have nothing
to say. It comes by the routes up to this one: it calls the validators of those that
match, in order, and no others. It leaves alone each matcher that none of these routes
has; any other matcher keeps the glob that was compiled last for one of its routes, or
what it held before if none compiled. -/
theorem firstMatch_selects (earlier : List (Key × Matcher.Request)) (path relative : String) :
    let matchers : Matchers Key := Matchers.after {} earlier
    (∀ routes : List (Key × Route Failure Value),
      (∀ entry ∈ routes, entry.2.verdict path relative = .ok none) →
        let selection := firstMatch path relative matchers routes
        selection.result = .ok none ∧ selection.CameBy matchers routes path relative) ∧
    (∀ (before rest : List (Key × Route Failure Value)) key route,
      (∀ entry ∈ before, entry.2.verdict path relative = .ok none) →
      route.verdict path relative ≠ .ok none →
        let selection := firstMatch path relative matchers (before ++ (key, route) :: rest)
        selection.result = (route.verdict path relative).map (·.map (key, ·)) ∧
          selection.CameBy matchers (before ++ [(key, route)]) path relative) ∧
    ∀ (selection : Selection Key Failure (Option (Key × Content Value)))
      (tried : List (Key × Route Failure Value)),
      selection.CameBy matchers tried path relative →
        (∀ key ∉ tried.map (·.1), selection.matchers.get key = matchers.get key) ∧
        ∀ key, (selection.matchers.get key).cached =
          (Matchers.lastCompiled? key (requests tried path relative)).or
            (matchers.get key).cached := by
  intro matchers
  have fresh : ∀ key, (Matchers.get ({} : Matchers Key) key).Sound :=
    fun _ => Matcher.sound_new
  have sound : ∀ key, (matchers.get key).Sound := Matchers.sound_after fresh earlier
  refine ⟨fun routes => firstMatch_of_all_passed sound,
    fun before rest key route => firstMatch_append_cons sound, ?_⟩
  intro selection tried cameBy
  rw [cameBy.matchers]
  constructor
  · intro key unused
    apply Matchers.get_after_of_notMem
    rwa [requests, List.map_map]
  · exact Matchers.cached_after sound _

/-- Turns down whatever it matches. -/
def refusing : Route Empty Nat :=
  { glob := ":id", validator := some { label := 7, check := fun _ => .ok none } }

/-- Has zero for its content. -/
def counting : Route Empty Nat :=
  { glob := "b", validator := some { label := 8, check := fun _ => .ok (some (.value 0)) } }

/-- Content is content even if it is zero, and the glob behind it, which would not compile,
is not looked at. -/
theorem firstMatch_selects_zero :
    let matchers := Matchers.after {} [(1, .compile ":1"), (2, .compile "/x")]
    let selection := firstMatch "/a/b" "/a" matchers
      [(0, refusing), (1, counting), (2, { glob := ":1" })]
    selection.result = .ok (some (1, .value 0)) ∧ selection.consulted = [7, 8] ∧
      selection.matchers.get 2 = matchers.get 2 ∧
      (selection.matchers.get 1).cached = some (Glob.read "/a/b") := by
  intro matchers selection
  have passed : ∀ entry ∈ [(0, refusing)], entry.2.verdict "/a/b" "/a" = .ok none :=
    List.forall_mem_singleton.mpr rfl
  have said : counting.verdict "/a/b" "/a" = .ok (some (.value 0)) := rfl
  have settled : counting.verdict "/a/b" "/a" ≠ .ok none := by
    rw [said]
    simp
  rcases firstMatch_selects [(1, .compile ":1"), (2, .compile "/x")] "/a/b" "/a" with
    ⟨-, hit, kept⟩
  rcases hit [(0, refusing)] [(2, { glob := ":1" })] 1 counting passed settled with
    ⟨result, cameBy⟩
  rcases kept _ _ cameBy with ⟨unused, cached⟩
  have content : (counting.verdict "/a/b" "/a").map (·.map (1, ·)) =
      .ok (some (1, .value 0)) := rfl
  exact ⟨result.trans content, cameBy.consulted.trans rfl, unused 2 (by simp),
    (cached 1).trans rfl⟩

end Route

end Router
