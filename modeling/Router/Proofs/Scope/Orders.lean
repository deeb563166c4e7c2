import Router.Proofs.Except
import Router.Scope.Statement

namespace Router.Scope

/-! ## Orders

Acts come down to few orders to navigators: a move is one, a redirection is one to
navigate, and all other acts only look. Which navigator is ordered to do what can be
read off the reports of a run, and the navigators end up where these orders lead. -/

/-- What the act has the navigator do, if anything. -/
def Act.order? (base : String) : Act → Option Move
  | .redirect target replace => some (.navigate (Path.resolve base target) replace)
  | .move order => some order
  | .getBase | .getNavigator | .isActive _ _ | .route _ | .raise _ => none

namespace World

/-- The world after a move of the navigator of this name. -/
def moved (world : World) (name : String) (navigator : Navigator) (move : Move) : World :=
  { world with
    navigators := world.navigators.insert name (navigator.apply move).navigator
    pending := world.pending ++ (navigator.apply move).records }

@[simp] theorem surroundings_moved (world : World) (name : String) (navigator : Navigator)
    (move : Move) : (world.moved name navigator move).surroundings = world.surroundings :=
  rfl

theorem current_eq_ok_iff {world : World} {found : String × Navigator} :
    world.current = .ok found ↔ world.navigator? = some found := by
  unfold current
  cases world.navigator? <;> simp

theorem navigator?_eq_some_iff {world : World} {name : String} {navigator : Navigator} :
    world.navigator? = some (name, navigator) ↔
      world.surroundings.navigator = some name ∧
        world.navigators.find? name = some navigator := by
  simp only [navigator?, Option.bind_eq_bind, Option.bind_eq_some_iff]
  constructor
  · intro found
    rcases found with ⟨_, around, _, there, same⟩
    cases same
    exact ⟨around, there⟩
  · intro found
    exact ⟨name, found.1, navigator, found.2, rfl⟩

theorem exists_moved_of_move {world after : World} {move : Move}
    (moves : world.move move = .ok after) :
    ∃ name navigator, world.navigator? = some (name, navigator) ∧
      after = world.moved name navigator move := by
  rcases Except.bind_eq_ok_iff.mp moves with ⟨⟨name, navigator⟩, found, same⟩
  cases same
  exact ⟨name, navigator, current_eq_ok_iff.mp found, rfl⟩

/-- What an act can do to a world. -/
inductive Deed (world : World) (act : Act) : World → Prop
  | looked (idle : act.order? world.surroundings.base = none) : Deed world act world
  | ordered {name : String} {navigator : Navigator} {move : Move}
      (order : act.order? world.surroundings.base = some move)
      (around : world.navigator? = some (name, navigator)) :
      Deed world act (world.moved name navigator move)

theorem deed_of_perform {world after : World} {act : Act} {answer : Answer}
    (performs : world.perform act = .ok (answer, after)) : Deed world act after := by
  cases act with
  | getBase =>
      cases performs
      exact .looked rfl
  | getNavigator | isActive | route =>
      rcases Except.bind_eq_ok_iff.mp performs with ⟨_, -, found⟩
      cases found
      exact .looked rfl
  | redirect | move =>
      rcases Except.bind_eq_ok_iff.mp performs with ⟨_, moves, same⟩
      cases same
      rcases exists_moved_of_move moves with ⟨name, navigator, around, rfl⟩
      exact .ordered rfl around
  | raise => cases performs

theorem Deed.surroundings {world after : World} {act : Act} (deed : Deed world act after) :
    after.surroundings = world.surroundings := by
  cases deed <;> rfl

/-- The navigator that was ordered to move is still the one around the program. -/
theorem navigator?_moved {world : World} {name : String} {navigator : Navigator}
    (around : world.navigator? = some (name, navigator)) (move : Move) :
    (world.moved name navigator move).navigator? =
      some (name, (navigator.apply move).navigator) :=
  navigator?_eq_some_iff.mpr
    ⟨(navigator?_eq_some_iff.mp around).1, Bindings.find?_insert_self _ name _⟩

end World

/-! ### Orders in a run -/

def Occurrence.order? (base : String) : Occurrence → Option Move
  | .acted act _ => act.order? base
  | .enteredRouter _ | .leftRouter | .enteredRoute _ _ | .leftRoute | .skippedRoute
  | .attempted | .caught _ => none

/-- The order that a report tells of, with the name of the navigator. -/
def Report.order? (report : Report) : Option (String × Move) := do
  let move ← report.occurrence.order? report.base
  let (name, _) ← report.navigator
  return (name, move)

def orders (reports : List Report) : List (String × Move) :=
  reports.filterMap Report.order?

theorem orders_append (earlier later : List Report) :
    orders (earlier ++ later) = orders earlier ++ orders later :=
  List.filterMap_append

/-- The navigators after one of them has carried out an order. -/
def obey (navigators : Bindings String Navigator) (order : String × Move) :
    Bindings String Navigator :=
  match navigators.find? order.1 with
  | none => navigators
  | some navigator => navigators.insert order.1 (navigator.apply order.2).navigator

def obeyAll (navigators : Bindings String Navigator) (orders : List (String × Move)) :
    Bindings String Navigator :=
  orders.foldl obey navigators

theorem obeyAll_append (navigators : Bindings String Navigator)
    (earlier later : List (String × Move)) :
    obeyAll navigators (earlier ++ later) = obeyAll (obeyAll navigators earlier) later :=
  List.foldl_append

/-- What one navigator is ordered to do. -/
def ordersTo (name : String) (orders : List (String × Move)) : List Move :=
  orders.filterMap fun order => if order.1 = name then some order.2 else none

theorem find?_obey_self (navigators : Bindings String Navigator) (name : String)
    (move : Move) :
    (obey navigators (name, move)).find? name =
      (navigators.find? name).map fun navigator => (navigator.apply move).navigator := by
  unfold obey
  cases found : navigators.find? name with
  | none => exact found
  | some navigator => exact Bindings.find?_insert_self navigators name _

theorem find?_obey_of_ne (navigators : Bindings String Navigator) {name other : String}
    (different : other ≠ name) (move : Move) :
    (obey navigators (name, move)).find? other = navigators.find? other := by
  unfold obey
  cases navigators.find? name with
  | none => rfl
  | some navigator => exact Bindings.find?_insert_of_ne navigators different _

/-- A navigator does what it is ordered to do and nothing else. -/
theorem find?_obeyAll (navigators : Bindings String Navigator)
    (orders : List (String × Move)) (name : String) :
    (obeyAll navigators orders).find? name =
      (navigators.find? name).map (·.applyAll (ordersTo name orders)) := by
  induction orders generalizing navigators with
  | nil => exact Option.map_id_apply.symm
  | cons order rest induction =>
      rcases order with ⟨ordered, move⟩
      have later : obeyAll navigators ((ordered, move) :: rest) =
          obeyAll (obey navigators (ordered, move)) rest := rfl
      rw [later, induction]
      by_cases same : ordered = name
      · have own : ordersTo name ((ordered, move) :: rest) = move :: ordersTo name rest :=
          List.filterMap_cons_some (if_pos same)
        rw [own, ← same, find?_obey_self, Option.map_map]
        rfl
      · have foreign : ordersTo name ((ordered, move) :: rest) = ordersTo name rest :=
          List.filterMap_cons_none (if_neg same)
        rw [foreign, find?_obey_of_ne navigators fun equal => same equal.symm]

/-! Every part of a program accounts for what it does to the navigators. -/

/-- The run leaves the navigators where the orders it reports lead. -/
def Accounts (navigators : Bindings String Navigator) (run : Run World) : Prop :=
  run.state.navigators = obeyAll navigators (orders run.reports)

namespace Accounts

variable {navigators : Bindings String Navigator} {run : Run World}
  {next : World → Run World}

theorem followedBy (accounts : Accounts navigators run)
    (rest : ∀ world, Accounts world.navigators (next world)) :
    Accounts navigators (run.followedBy next) := by
  have later : (next run.state).state.navigators =
      obeyAll run.state.navigators (orders (next run.state).reports) := rest run.state
  rw [accounts, ← obeyAll_append, ← orders_append] at later
  exact later

theorem andThen (accounts : Accounts navigators run)
    (rest : ∀ world, Accounts world.navigators (next world)) :
    Accounts navigators (run.andThen next) := by
  unfold Run.andThen
  split
  · exact accounts
  · exact accounts.followedBy rest

/-- Only reports of acts tell of orders. -/
theorem report {occurrence : Occurrence} (idle : ∀ act answer, occurrence ≠ .acted act answer)
    (world : World) : Accounts world.navigators (Run.report occurrence world) := by
  cases occurrence with
  | acted act answer => exact absurd rfl (idle act answer)
  | enteredRouter | leftRouter | enteredRoute | leftRoute | skippedRoute | attempted
  | caught => rfl

theorem rescued {catches : Failure → Bool} (accounts : Accounts navigators run)
    (rest : ∀ world, Accounts world.navigators (next world)) :
    Accounts navigators (run.rescued catches Run.report next) := by
  unfold Run.rescued
  split
  · exact accounts.followedBy (report (by simp))
  · next failure broken =>
      split
      · have recovered : Accounts navigators { run with failure := none } := accounts
        exact (recovered.followedBy (report (by simp))).andThen rest
      · exact accounts

theorem withinRouter {world : World} (navigator base : String)
    (body : ∀ world, Accounts world.navigators (next world)) :
    Accounts world.navigators (world.withinRouter navigator base next) :=
  (report (by simp) _).followedBy fun inside =>
    (body inside).followedBy fun _ => report (by simp) _

theorem withinRoute {world : World} (info : RouteInfo)
    (body : ∀ world, Accounts world.navigators (next world)) :
    Accounts world.navigators (world.withinRoute info next) :=
  (report (by simp) _).followedBy fun inside =>
    (body inside).followedBy fun _ => report (by simp) _

end Accounts

/-- The report after an act tells of the order that the act came down to. -/
theorem World.Deed.accounts {world after : World} {act : Act} (deed : Deed world act after)
    (answer : Answer) :
    Accounts world.navigators (Run.report (.acted act answer) after) := by
  unfold Accounts
  cases deed with
  | looked idle =>
      have silent : orders (Run.report (.acted act answer) world).reports = [] := by
        simp [orders, Run.report, Report.order?, Occurrence.order?, idle]
      rw [silent]
      rfl
  | @ordered name navigator move order around =>
      have told : orders (Run.report (.acted act answer)
          (world.moved name navigator move)).reports = [(name, move)] := by
        simp [orders, Run.report, Report.order?, Occurrence.order?, order,
          World.navigator?_moved around]
      have obeyed : obey world.navigators (name, move) =
          world.navigators.insert name (navigator.apply move).navigator := by
        rw [obey, (World.navigator?_eq_some_iff.mp around).2]
      rw [told]
      exact obeyed.symm

mutual

theorem Statement.accounts (statement : Statement) (world : World) :
    Accounts world.navigators (statement.run world) := by
  cases statement with
  | router navigator base body =>
      exact Accounts.withinRouter navigator base (accounts_runAll body)
  | enter info body => exact Accounts.withinRoute info (accounts_runAll body)
  | route glob body =>
      rw [Statement.run]
      split
      · rfl
      · exact Accounts.report (by simp) world
      · next info matched => exact Accounts.withinRoute info (accounts_runAll body)
  | rescue body catches handler =>
      exact (accounts_runAll body world).rescued (accounts_runAll handler)
  | act act =>
      rw [Statement.run]
      split
      · rfl
      · next answer after performs => exact (World.deed_of_perform performs).accounts answer

theorem accounts_runAll (program : List Statement) (world : World) :
    Accounts world.navigators (runAll program world) := by
  cases program with
  | nil => rfl
  | cons statement rest =>
      exact (statement.accounts world).andThen (accounts_runAll rest)

end

/-- A program leaves each navigator where the orders that it reports lead it. -/
theorem find?_runAll (program : List Statement) (world : World) (name : String) :
    (runAll program world).state.navigators.find? name =
      (world.navigators.find? name).map
        (·.applyAll (ordersTo name (orders (runAll program world).reports))) := by
  have accounts : (runAll program world).state.navigators = _ := accounts_runAll program world
  rw [accounts, find?_obeyAll]

end Router.Scope
