import Router.Proofs.Navigator.Effect

namespace Router

/-! ## Browsers

The history of a browser is usually told as one line of paths with a cursor on the
current one. Going back and forth moves the cursor, a visit cuts the line after the
cursor. A navigator keeps two stacks instead, and nothing that can be observed
tells the difference. -/

/-- All remembered paths, oldest first, with the cursor on the current one. -/
structure Browser where
  timeline : List String
  cursor : Nat
  within : cursor < timeline.length
  lastAction : Option Action := none

namespace Browser

@[ext] theorem ext {left right : Browser} (timeline : left.timeline = right.timeline)
    (cursor : left.cursor = right.cursor)
    (lastAction : left.lastAction = right.lastAction) : left = right := by
  cases left
  cases right
  cases timeline
  cases cursor
  cases lastAction
  rfl

def current (browser : Browser) : String :=
  browser.timeline.get ⟨browser.cursor, browser.within⟩

def start (path : String) : Browser where
  timeline := [path]
  cursor := 0
  within := by simp

def visited (browser : Browser) : List String :=
  browser.timeline.take (browser.cursor + 1)

theorem length_visited (browser : Browser) :
    browser.visited.length = browser.cursor + 1 :=
  List.length_take_of_le browser.within

/-- The newest paths, as many as the limit allows. -/
def newest (config : Config) (paths : List String) : List String :=
  match config.limit with
  | none => paths
  | some limit => paths.drop (paths.length - limit)

theorem newest_of_le {config : Config} {paths : List String}
    (fits : ∀ limit ∈ config.limit, paths.length ≤ limit) :
    newest config paths = paths := by
  unfold newest
  split
  · rfl
  · next limit limited =>
      rw [Nat.sub_eq_zero_of_le (fits limit limited), List.drop_zero]

theorem length_newest_pos (config : Config) {paths : List String}
    (positive : 0 < paths.length) : 0 < (newest config paths).length := by
  unfold newest
  split
  · exact positive
  · next limit limited =>
      have limitPositive := config.limit_positive limit limited
      rw [List.length_drop]
      omega

def overwrite (destination : String) (browser : Browser) : Browser where
  timeline := browser.visited.set browser.cursor destination
  cursor := browser.cursor
  within := by
    rw [List.length_set, length_visited]
    exact Nat.lt_succ_self _
  lastAction := some (.between browser.current destination .push)

@[simp] theorem timeline_overwrite (browser : Browser) (destination : String) :
    (browser.overwrite destination).timeline =
      browser.visited.set browser.cursor destination := rfl

@[simp] theorem lastAction_overwrite (browser : Browser) (destination : String) :
    (browser.overwrite destination).lastAction =
      some (.between browser.current destination .push) := rfl

/-- Appends a path and forgets the oldest ones beyond the limit. -/
def append (config : Config) (destination : String) (browser : Browser) : Browser where
  timeline := newest config (browser.visited ++ [destination])
  cursor := (newest config (browser.visited ++ [destination])).length - 1
  within := Nat.sub_one_lt_of_lt (length_newest_pos config (by simp))
  lastAction := some (.between browser.current destination .push)

@[simp] theorem timeline_append (browser : Browser) (config : Config)
    (destination : String) :
    (browser.append config destination).timeline =
      newest config (browser.visited ++ [destination]) := rfl

@[simp] theorem cursor_append (browser : Browser) (config : Config)
    (destination : String) :
    (browser.append config destination).cursor =
      (newest config (browser.visited ++ [destination])).length - 1 := rfl

@[simp] theorem lastAction_append (browser : Browser) (config : Config)
    (destination : String) :
    (browser.append config destination).lastAction =
      some (.between browser.current destination .push) := rfl

/-- Moves the cursor. Where it already is, this is not a navigation. -/
def seek (kind : ActionKind) (cursor : Nat) (browser : Browser)
    (within : cursor < browser.timeline.length) : Browser :=
  if cursor = browser.cursor then browser
  else
    { timeline := browser.timeline
      cursor
      within
      lastAction :=
        some (.between browser.current (browser.timeline.get ⟨cursor, within⟩) kind) }

theorem within_back (browser : Browser) (count : Int) (positive : 1 ≤ count) :
    (max 0 (browser.cursor - count : Int)).toNat < browser.timeline.length := by
  have within := browser.within
  omega

theorem within_forward (browser : Browser) (count : Int) :
    (min (browser.timeline.length - 1 : Int) (browser.cursor + count)).toNat <
      browser.timeline.length := by
  have within := browser.within
  omega

def apply (config : Config) (browser : Browser) : Move → Browser
  | .navigate target replace =>
      let destination := Path.resolve browser.current target
      if destination = browser.current then browser
      else if replace then browser.overwrite destination
      else browser.append config destination
  | .back count =>
      if positive : 1 ≤ count then
        browser.seek .back (max 0 (browser.cursor - count : Int)).toNat
          (browser.within_back count positive)
      else browser
  | .forward count =>
      if 1 ≤ count then
        browser.seek .forward
          (min (browser.timeline.length - 1 : Int) (browser.cursor + count)).toNat
          (browser.within_forward count)
      else browser
  | .clear => start browser.current

def applyAll (config : Config) (browser : Browser) (moves : List Move) : Browser :=
  moves.foldl (apply config) browser

example : ((start "/").applyAll { limit := some 2 }
    [.navigate "a" false, .navigate "b" false, .back 1]).timeline = ["/a", "/a/b"] := by
  decide +kernel

/-! ### Navigators as browsers -/

/-- The two stacks of a navigator, laid out along one line. -/
def ofNavigator (navigator : Navigator) : Browser where
  timeline := navigator.trail.timeline
  cursor := navigator.trail.behind.length
  within := by
    rw [Trail.length_timeline]
    omega
  lastAction := navigator.lastAction

section

variable (navigator : Navigator)

@[simp] theorem timeline_ofNavigator :
    (ofNavigator navigator).timeline = navigator.history ++ navigator.trail.ahead := rfl

@[simp] theorem cursor_ofNavigator :
    (ofNavigator navigator).cursor = navigator.trail.behind.length := rfl

@[simp] theorem visited_ofNavigator :
    (ofNavigator navigator).visited = navigator.history := by
  have length : navigator.history.length = navigator.trail.behind.length + 1 :=
    Trail.length_history navigator.trail
  rw [visited, timeline_ofNavigator, cursor_ofNavigator, ← length, List.take_left]

theorem drop_ofNavigator :
    (ofNavigator navigator).timeline.drop ((ofNavigator navigator).cursor + 1) =
      navigator.trail.ahead := by
  have length : navigator.history.length = navigator.trail.behind.length + 1 :=
    Trail.length_history navigator.trail
  rw [timeline_ofNavigator, cursor_ofNavigator, ← length, List.drop_left]

end

/-- The current path stands behind as many paths as there are to go back to. -/
theorem get_timeline (trail : Trail) {position : Nat}
    (there : position = trail.behind.length) (within : position < trail.timeline.length) :
    trail.timeline.get ⟨position, within⟩ = trail.current := by
  subst there
  simp [Trail.timeline, Trail.history]

@[simp] theorem current_ofNavigator (navigator : Navigator) :
    (ofNavigator navigator).current = navigator.path :=
  get_timeline navigator.trail rfl _

theorem ofNavigator_arrive (navigator : Navigator) (kind : ActionKind) (trail : Trail)
    (records : List Record) {cursor : Nat}
    (within : cursor < (ofNavigator navigator).timeline.length)
    (sameLine : trail.timeline = navigator.trail.timeline)
    (there : cursor = trail.behind.length)
    (elsewhere : cursor ≠ navigator.trail.behind.length) :
    ofNavigator (navigator.arrive kind trail records).navigator =
      (ofNavigator navigator).seek kind cursor within := by
  have arrival : (ofNavigator navigator).timeline.get ⟨cursor, within⟩ = trail.current :=
    (List.getElem_of_eq sameLine.symm within).trans (get_timeline trail there _)
  rw [seek, cursor_ofNavigator, if_neg elsewhere]
  apply Browser.ext
  · exact sameLine
  · exact there.symm
  · rw [arrival, current_ofNavigator]
    rfl

theorem seek_of_eq (browser : Browser) (kind : ActionKind) {cursor : Nat}
    (within : cursor < browser.timeline.length) (here : cursor = browser.cursor) :
    browser.seek kind cursor within = browser := by
  rw [seek, if_pos here]

/-! A move does the same to a navigator and to the browser it stands for. -/

theorem ofNavigator_replace (navigator : Navigator) (destination : String) :
    ofNavigator
        (navigator.arrive .push (navigator.trail.replace destination) []).navigator =
      (ofNavigator navigator).overwrite destination := by
  apply Browser.ext
  · rw [timeline_overwrite, visited_ofNavigator, cursor_ofNavigator, Navigator.history,
      Trail.history, List.set_append_right _ _ (by simp)]
    simp [Navigator.arrive, Navigator.history, Trail.history, Trail.replace]
  · rfl
  · rw [lastAction_overwrite, current_ofNavigator]
    rfl

theorem ofNavigator_push (navigator : Navigator) (destination : String) {trail : Trail}
    {records : List Record} (current : trail.current = destination)
    (nothingAhead : trail.ahead = [])
    (kept : trail.history =
      newest navigator.config (navigator.history ++ [destination])) :
    ofNavigator (navigator.arrive .push trail records).navigator =
      (ofNavigator navigator).append navigator.config destination := by
  apply Browser.ext
  · rw [timeline_append, visited_ofNavigator, ← kept]
    simp [Navigator.arrive, Navigator.history, nothingAhead]
  · rw [cursor_append, visited_ofNavigator, ← kept, Trail.length_history]
    rfl
  · rw [lastAction_append, current_ofNavigator, ← current]
    rfl

theorem ofNavigator_apply {navigator : Navigator} (within : navigator.WithinLimit)
    (move : Move) :
    ofNavigator (navigator.apply move).navigator =
      (ofNavigator navigator).apply navigator.config move := by
  have effect := Navigator.effect_apply within move
  generalize navigator.apply move = step at effect
  cases effect with
  | ignored same => simp [apply, same]
  | replaced different =>
      rw [apply, current_ofNavigator, if_neg different, if_pos rfl]
      exact ofNavigator_replace navigator _
  | @pushed target different room =>
      have fits : ∀ limit ∈ navigator.config.limit,
          (navigator.history ++ [Path.resolve navigator.path target]).length ≤ limit := by
        intro limit limited
        rw [List.length_append, List.length_singleton]
        exact room limit limited
      rw [apply, current_ofNavigator, if_neg different, if_neg Bool.false_ne_true]
      apply ofNavigator_push navigator (Path.resolve navigator.path target) rfl rfl
      rw [newest_of_le fits, Trail.history_push]
      rfl
  | @overflowed target different full =>
      rw [apply, current_ofNavigator, if_neg different, if_neg Bool.false_ne_true]
      apply ofNavigator_push navigator (Path.resolve navigator.path target) rfl rfl
      rw [Trail.history_forget_push,
        ← List.tail_append_of_ne_nil (Trail.history_ne_nil navigator.trail)]
      simp [newest, full, Navigator.history]
  | @stayedBack count nowhere =>
      rw [apply]
      split
      · next positive =>
          have atStart : navigator.trail.behind.length = 0 := by
            have impossible : ¬navigator.canGoBack := fun possible =>
              nowhere ⟨by omega, possible⟩
            simpa [Navigator.canGoBack] using impossible
          rw [seek_of_eq]
          rw [cursor_ofNavigator, atStart]
          omega
      · rfl
  | @retreated count positive possible =>
      have behind : 0 < navigator.trail.behind.length := by
        simpa [Navigator.canGoBack, List.length_pos_iff] using possible
      rw [apply, dif_pos (show 1 ≤ count by omega)]
      apply ofNavigator_arrive
      · exact Trail.timeline_retreat _ _
      · rw [Trail.length_behind_retreat, cursor_ofNavigator]
        omega
      · rw [cursor_ofNavigator]
        omega
  | @stayedForward count nowhere =>
      rw [apply]
      split
      · next positive =>
          have atEnd : navigator.trail.ahead.length = 0 := by
            have impossible : ¬navigator.canGoForward := fun possible =>
              nowhere ⟨by omega, possible⟩
            simpa [Navigator.canGoForward] using impossible
          rw [seek_of_eq]
          have length := Trail.length_timeline navigator.trail
          simp only [ofNavigator]
          omega
      · rfl
  | @advanced count positive possible =>
      have ahead : 0 < navigator.trail.ahead.length := by
        simpa [Navigator.canGoForward, List.length_pos_iff] using possible
      have length := Trail.length_timeline navigator.trail
      rw [apply, if_pos (show 1 ≤ count by omega)]
      apply ofNavigator_arrive
      · exact Trail.timeline_advance _ _
      · rw [Trail.length_behind_advance]
        simp only [ofNavigator]
        omega
      · simp only [ofNavigator]
        omega
  | cleared =>
      rw [apply, current_ofNavigator]
      rfl

theorem ofNavigator_applyAll {navigator : Navigator} (within : navigator.WithinLimit)
    (moves : List Move) :
    ofNavigator (navigator.applyAll moves) =
      (ofNavigator navigator).applyAll navigator.config moves := by
  induction moves generalizing navigator with
  | nil => rfl
  | cons move moves induction =>
      have effect := Navigator.effect_apply within move
      rw [Navigator.applyAll_cons, induction (effect.withinLimit within), effect.config,
        ofNavigator_apply within]
      rfl

end Browser

/-- After any moves a navigator shows what a browser shows after the same moves: the
history up to the cursor, what lies ahead the other way round, the current path, in
which directions it can go, and the navigation made last. -/
theorem Navigator.applyAll_shows_browser (initial : String) (config : Config)
    (moves : List Move) :
    let navigator := (Navigator.start initial config).applyAll moves
    let browser := (Browser.start (Path.normalize [initial])).applyAll config moves
    navigator.history = browser.timeline.take (browser.cursor + 1) ∧
    navigator.forwardHistory = (browser.timeline.drop (browser.cursor + 1)).reverse ∧
    navigator.path = browser.current ∧
    (navigator.canGoBack ↔ 0 < browser.cursor) ∧
    (navigator.canGoForward ↔ browser.cursor < browser.timeline.length - 1) ∧
    navigator.lastAction = browser.lastAction := by
  intro navigator browser
  have same : browser = Browser.ofNavigator navigator :=
    (Browser.ofNavigator_applyAll (withinLimit_start initial config) moves).symm
  have length := Trail.length_timeline navigator.trail
  rw [same]
  refine ⟨?_, ?_, ?_, ?_, ?_, rfl⟩
  · exact (Browser.visited_ofNavigator navigator).symm
  · rw [Browser.drop_ofNavigator]
    rfl
  · exact (Browser.current_ofNavigator navigator).symm
  · rw [Browser.cursor_ofNavigator, List.length_pos_iff]
    simp [canGoBack]
  · have ahead : 0 < navigator.trail.ahead.length ↔ navigator.canGoForward := by
      rw [List.length_pos_iff]
      simp [canGoForward]
    simp only [Browser.ofNavigator]
    rw [← ahead]
    omega

end Router
