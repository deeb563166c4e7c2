namespace Router

/-! ## Configuration

What a navigator is told once and for all when it starts. A limit has to leave
room for the current path; a lower one is refused. -/

/-- A history limit that leaves no room for the current path. -/
structure ConfigError where
  limit : Int
  deriving DecidableEq, Repr

def ConfigError.message (error : ConfigError) : String :=
  "max_history must be at least 1, got " ++ toString error.limit

structure Config where
  /-- Whether ignored navigations are worth a warning. -/
  debug : Bool := false
  /-- The greatest number of visited paths to keep, the current one included. -/
  limit : Option Nat := none
  /-- The current path is never forgotten. -/
  limit_positive : ∀ bound ∈ limit, 0 < bound := by simp
  deriving DecidableEq, Repr

/-- A configuration with the given limit, unless the limit is below one. -/
def Config.make (debug : Bool) (limit : Option Int) : Except ConfigError Config :=
  match limit with
  | none => .ok { debug }
  | some bound =>
      if positive : 0 < bound then
        .ok {
          debug
          limit := some bound.toNat
          limit_positive := by simpa using positive }
      else .error { limit := bound }

end Router
