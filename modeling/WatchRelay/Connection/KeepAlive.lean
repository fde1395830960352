import WatchRelay.Connection.Outlet

/-! Keep-alive: a ping on every tick of a fixed interval. -/

namespace WatchRelay

/-- How keeping alive ended. -/
inductive KeepAliveEnd where
  | cancelled
  | sendFailed
deriving DecidableEq, Repr

/-- What keep-alive is doing. -/
inductive KeepAlivePhase where
  /-- It waits for a tick. -/
  | waiting (due : Nat)
  /-- It writes a ping; the next tick is set. -/
  | pinging (next : Nat) (stage : WriteStage)
  | finished (result : KeepAliveEnd)
  | aborted
deriving DecidableEq, Repr

/-- The keep-alive of one connection. -/
structure KeepAlive where
  phase : KeepAlivePhase
  /-- The time from tick to tick, in milliseconds. -/
  interval : Nat
deriving Repr

namespace KeepAlive

/-- The keep-alive of a new connection: the first ping comes one interval after its start.

Without an interval there are no ticks, and keep-alive breaks down at once. -/
def new (now interval : Nat) : KeepAlive :=
  if interval = 0 then ⟨.aborted, interval⟩ else ⟨.waiting (now + interval), interval⟩

/-- Whether keep-alive is at work. -/
def isRunning (k : KeepAlive) : Bool :=
  match k.phase with
  | .waiting _ | .pinging _ _ => true
  | .finished _ | .aborted => false

/-- A tick noticed later than this moves the ticks after it. -/
def tolerance : Nat := 5

/-- The tick after one that was due and is noticed now. -/
def tickAfter (k : KeepAlive) (due now : Nat) : Nat :=
  if due + tolerance < now then now + k.interval else due + k.interval

/-- One step of keep-alive, or none while there is nothing to do; with a failure to report. -/
def step (k : KeepAlive) (o : Outlet) (now : Nat) (cancelled : Bool) :
    Option (KeepAlive × Outlet × Option SessionFailure) :=
  match k.phase with
  | .waiting due =>
    if cancelled then some ({ k with phase := .finished .cancelled }, o, none)
    else if due ≤ now then
      some ({ k with phase := .pinging (k.tickAfter due now) .queued }, o.join .keepAlive, none)
    else none
  | .pinging next stage =>
    match o.stepWrite now .keepAlive .ping stage with
    | none => none
    | some (o, .on stage) => some ({ k with phase := .pinging next stage }, o, none)
    | some (o, .done true f) => some ({ k with phase := .waiting next }, o, f)
    | some (o, .done false f) => some ({ k with phase := .finished .sendFailed }, o, f)
  | .finished _ | .aborted => none

/-- When keep-alive has something to do. -/
def deadline? (k : KeepAlive) : Option Nat :=
  match k.phase with
  | .waiting due => some due
  | .pinging _ stage => stage.deadline?
  | _ => none

/-- Stops keep-alive from outside; its place in line is given up. -/
def abort (k : KeepAlive) (o : Outlet) : KeepAlive × Outlet :=
  if k.isRunning then ({ k with phase := .aborted }, o.leave .keepAlive) else (k, o)

end KeepAlive

end WatchRelay
