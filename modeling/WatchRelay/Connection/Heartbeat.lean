import WatchRelay.Connection.Callers
import WatchRelay.Connection.KeepAlive

/-! Keep-alive at work on its own, on a connection that others may close. -/

namespace WatchRelay

/-- Keep-alive with its connection. -/
structure Heartbeat where
  keepAlive : KeepAlive
  callers : Callers
  /-- Whether it was told to stop. -/
  cancelled : Bool
  /-- When it stopped. -/
  endTime : Option Nat
deriving Repr

namespace Heartbeat

/-- Keep-alive at the start of time. -/
def start (interval limit : Nat) (wire : WireState) (cancelled : Bool) : Heartbeat :=
  ⟨.new 0 interval, ⟨0, .new wire limit, ⟨[], Alarms.sessionCapacity⟩, [], #[]⟩,
    cancelled, none⟩

/-- How keep-alive ended. -/
def result? (h : Heartbeat) : Option KeepAliveEnd :=
  match h.keepAlive.phase with
  | .finished result => some result
  | _ => none

/-- One step of keep-alive or else of a caller, or none while all have to wait. -/
def step (h : Heartbeat) : Option Heartbeat :=
  let c := h.callers
  match h.keepAlive.step c.outlet c.now h.cancelled with
  | some (keepAlive, outlet, f) =>
    some { h with
      keepAlive
      callers := { c with outlet, alarms := c.alarms.reportAny f }
      endTime := if keepAlive.isRunning then none else some c.now }
  | none => c.step.map fun callers => { h with callers }

instance : Clocked Heartbeat where
  now h := h.callers.now
  setTime h now := { h with callers := { h.callers with now } }
  step := Heartbeat.step
  deadlines h := h.keepAlive.deadline?.toList ++ h.callers.deadlines

end Heartbeat

end WatchRelay
