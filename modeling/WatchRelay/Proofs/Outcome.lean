/-! Computations that may fail: one made of parts succeeds where all its parts do. -/

namespace WatchRelay

namespace Outcome

variable {ε α β : Type}

/-- A computation that goes on succeeds if its first part does and what follows it. -/
theorem bind_eq_ok {x : Except ε α} {f : α → Except ε β} {b : β} :
    (x >>= f) = .ok b ↔ ∃ a, x = .ok a ∧ f a = .ok b := by
  cases x <;> simp [bind, Except.bind]

/-- What is made of a result is there if the result is. -/
theorem map_eq_ok {x : Except ε α} {f : α → β} {b : β} :
    f <$> x = .ok b ↔ ∃ a, x = .ok a ∧ f a = b := by
  cases x <;> simp [Functor.map, Except.map]

/-- What is refused in other words succeeds alike. -/
theorem mapError_eq_ok {ε' : Type} {x : Except ε α} {f : ε → ε'} {a : α} :
    x.mapError f = .ok a ↔ x = .ok a := by
  -- Only the error is mapped, so a result is the same on both sides.
  constructor
  · intro same
    cases x with
    | error e => cases same
    | ok b =>
      cases same
      rfl
  · rintro rfl
    rfl

/-- Why a computation fails, if it does. -/
def fault? : Except ε α → Option ε
  | .error e => some e
  | .ok _ => none

/-- A result that is there is that of a computation that succeeds. -/
theorem toOption_eq_some {x : Except ε α} {a : α} : x.toOption = some a ↔ x = .ok a := by
  cases x <;> simp [Except.toOption]

end Outcome

end WatchRelay
