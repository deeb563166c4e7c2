namespace Except

/-! ## Results that may be errors

What has to be true of a computation if one that builds on it ends in a given way. -/

variable {Error Value Result : Type} {outcome : Except Error Value}

theorem map_eq_ok_iff {use : Value → Result} {answer : Result} :
    outcome.map use = .ok answer ↔ ∃ value, outcome = .ok value ∧ use value = answer := by
  cases outcome <;> simp [Except.map]

theorem exists_map_eq_ok_iff {use : Value → Result} :
    (∃ answer, outcome.map use = .ok answer) ↔ ∃ value, outcome = .ok value := by
  cases outcome <;> simp [Except.map]

theorem map_eq_error_iff {use : Value → Result} {error : Error} :
    outcome.map use = .error error ↔ outcome = .error error := by
  cases outcome <;> simp [Except.map]

theorem bind_eq_ok_iff {next : Value → Except Error Result} {result : Result} :
    (outcome >>= next) = .ok result ↔
      ∃ value, outcome = .ok value ∧ next value = .ok result := by
  cases outcome <;> simp [bind, Except.bind]

end Except
