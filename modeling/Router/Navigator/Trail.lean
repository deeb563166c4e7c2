namespace Router

/-! ## Trails

The paths visited so far, with the current one singled out. Both the paths behind
and the paths ahead are kept nearest first, so that a step in either direction
touches only the heads. -/

structure Trail where
  /-- The paths to go back to, nearest first. -/
  behind : List String := []
  current : String
  /-- The paths to go forward to, nearest first. -/
  ahead : List String := []
  deriving DecidableEq, Repr

namespace Trail

/-- The visited paths, oldest first. The last one is current. -/
def history (trail : Trail) : List String :=
  trail.behind.reverse ++ [trail.current]

/-- The paths ahead, with the next one last. -/
def forwardHistory (trail : Trail) : List String :=
  trail.ahead.reverse

def timeline (trail : Trail) : List String :=
  trail.history ++ trail.ahead

def push (trail : Trail) (path : String) : Trail where
  behind := trail.current :: trail.behind
  current := path

def replace (trail : Trail) (path : String) : Trail where
  behind := trail.behind
  current := path

/-- Goes back so many steps, or to the oldest path if there are fewer. -/
def retreat : Nat → Trail → Trail
  | 0, trail => trail
  | _ + 1, ⟨[], current, ahead⟩ => ⟨[], current, ahead⟩
  | count + 1, ⟨nearest :: behind, current, ahead⟩ =>
      retreat count ⟨behind, nearest, current :: ahead⟩

/-- Goes forward so many steps, or to the last path ahead if there are fewer. -/
def advance : Nat → Trail → Trail
  | 0, trail => trail
  | _ + 1, ⟨behind, current, []⟩ => ⟨behind, current, []⟩
  | count + 1, ⟨behind, current, nearest :: ahead⟩ =>
      advance count ⟨current :: behind, nearest, ahead⟩

/-- How many of the oldest paths stand in excess of a limit. -/
def excess (trail : Trail) (limit : Nat) : Nat :=
  trail.behind.length + 1 - limit

def forget (trail : Trail) (count : Nat) : Trail :=
  { trail with behind := trail.behind.take (trail.behind.length - count) }

def clear (trail : Trail) : Trail where
  current := trail.current

example : (retreat 5 ⟨["/b", "/a"], "/c", []⟩) = ⟨[], "/a", ["/b", "/c"]⟩ := by
  decide +kernel

/-! What each operation does to the history. -/

@[simp] theorem history_push (trail : Trail) (path : String) :
    (trail.push path).history = trail.history ++ [path] := by
  simp [push, history]

@[simp] theorem history_replace (trail : Trail) (path : String) :
    (trail.replace path).history = trail.behind.reverse ++ [path] := rfl

@[simp] theorem history_clear (trail : Trail) :
    trail.clear.history = [trail.current] := rfl

theorem length_history (trail : Trail) :
    trail.history.length = trail.behind.length + 1 := by
  simp [history]

theorem dropLast_history (trail : Trail) : trail.history.dropLast = trail.behind.reverse :=
  List.dropLast_concat

/-! Going back and forth moves along one timeline and leaves it as it is. -/

@[simp] theorem timeline_retreat (count : Nat) (trail : Trail) :
    (trail.retreat count).timeline = trail.timeline := by
  induction count generalizing trail with
  | zero => rfl
  | succ count induction =>
      obtain ⟨behind, current, ahead⟩ := trail
      cases behind with
      | nil => rfl
      | cons nearest behind =>
          rw [retreat, induction]
          simp [timeline, history]

@[simp] theorem timeline_advance (count : Nat) (trail : Trail) :
    (trail.advance count).timeline = trail.timeline := by
  induction count generalizing trail with
  | zero => rfl
  | succ count induction =>
      obtain ⟨behind, current, ahead⟩ := trail
      cases ahead with
      | nil => rfl
      | cons nearest ahead =>
          rw [advance, induction]
          simp [timeline, history]

theorem length_behind_retreat (count : Nat) (trail : Trail) :
    (trail.retreat count).behind.length = trail.behind.length - count := by
  induction count generalizing trail with
  | zero => rfl
  | succ count induction =>
      obtain ⟨behind, current, ahead⟩ := trail
      cases behind with
      | nil => simp [retreat]
      | cons nearest behind =>
          rw [retreat, induction]
          simp only [List.length_cons]
          omega

theorem length_behind_advance (count : Nat) (trail : Trail) :
    (trail.advance count).behind.length =
      trail.behind.length + min count trail.ahead.length := by
  induction count generalizing trail with
  | zero => simp [advance]
  | succ count induction =>
      obtain ⟨behind, current, ahead⟩ := trail
      cases ahead with
      | nil => simp [advance]
      | cons nearest ahead =>
          rw [advance, induction]
          simp only [List.length_cons]
          omega

end Trail

end Router
