/-! Letting what moves in steps run: it settles at one instant, and time passes from one deadline to
the next. -/

namespace WatchRelay

/-- Something that has a clock and moves in steps. -/
class Clocked (σ : Type) where
  /-- The time in milliseconds. -/
  now : σ → Nat
  setTime : σ → Nat → σ
  /-- One step, or none while it has to wait. -/
  step : σ → Option σ
  /-- The times at which something is due. -/
  deadlines : σ → List Nat

namespace Clocked

variable {σ : Type} [Clocked σ]

/-- Takes steps until it has to wait, at most as many as the fuel. -/
def settleWithin : Nat → σ → σ
  | 0, s => s
  | fuel + 1, s =>
    match step s with
    | some s => settleWithin fuel s
    | none => s

/-- More steps than anything takes at one instant. -/
def patience : Nat := 1000000

/-- Takes steps until it has to wait. -/
def settle (s : σ) : σ := settleWithin patience s

/-- The first deadline after now and no later than a moment. -/
def nextDeadline? (s : σ) (moment : Nat) : Option Nat :=
  ((deadlines s).filter fun d => now s < d && d ≤ moment).min?

/-- Lets time pass up to a moment; at most as many deadlines as the fuel are met on the way. -/
def passTime (moment : Nat) : Nat → σ → σ
  | 0, s => settle (setTime s moment)
  | fuel + 1, s =>
    match nextDeadline? s moment with
    | some d => passTime moment fuel (settle (setTime s d))
    | none => settle (setTime s moment)

/-- Lets so many milliseconds pass; the deadlines met on the way are a millisecond apart at
least. -/
def advance (s : σ) (ms : Nat) : σ := passTime (now s + ms) ms s

end Clocked

end WatchRelay
