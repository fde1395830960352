import WatchRelay.Time.Clocked

/-! What steps and the passing of time keep holds of whatever is let run. -/

namespace WatchRelay

namespace Clocked

variable {σ : Type} [Clocked σ] {P : σ → Prop}

/-- What every step keeps holds when all have to wait. -/
theorem settleWithin_keeps (steps : ∀ {s t : σ}, step s = some t → P s → P t)
    (fuel : Nat) {s : σ}
    (start : P s) : P (settleWithin fuel s) := by
  -- By induction on the fuel, where each step keeps what holds.
  induction fuel generalizing s with
  | zero => exact start
  | succ fuel ih =>
    unfold settleWithin
    split
    · next t moved => exact ih (steps moved start)
    · exact start

/-- What every step and the passing of time keep holds after any time. -/
theorem advance_keeps (steps : ∀ {s t : σ}, step s = some t → P s → P t)
    (passes : ∀ {s : σ} (moment : Nat), P s → P (setTime s moment)) {s : σ} (ms : Nat)
    (start : P s) : P (advance s ms) := by
  have settles {s : σ} (moment : Nat) (held : P s) : P (settle (setTime s moment)) :=
    settleWithin_keeps steps patience (passes moment held)
  -- One deadline after the other is met.
  have until_ (moment fuel : Nat) {s : σ} (held : P s) : P (passTime moment fuel s) := by
    induction fuel generalizing s with
    | zero => exact settles moment held
    | succ fuel ih =>
      unfold passTime
      split
      · next d _ => exact ih (settles d held)
      · exact settles moment held
  exact until_ _ ms start

end Clocked

end WatchRelay
