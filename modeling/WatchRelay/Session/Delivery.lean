import WatchRelay.Session.Runner
import WatchRelay.Time.Clocked

/-! A runner at work on its own: it has a connection to itself, which it lets go when it stops. -/

namespace WatchRelay

/-- A runner with its connection. -/
structure Delivery where
  runner : Runner
  credentials : Credentials
  outlet : Outlet
  alarms : Alarms
  env : Surroundings
  /-- When it stopped. -/
  endTime : Option Nat

namespace Delivery

/-- A runner at the start of time. -/
def start (kind : ResourceKind) (project : String) (credentials : Credentials) (source : Source)
    (wire : WireState) (limit : Nat) (cancelled : Bool) : Delivery where
  runner := { Runner.new 0 kind project with cancelled }
  credentials := credentials
  outlet := .new wire limit
  alarms := ⟨[], Alarms.sessionCapacity⟩
  env := .start source
  endTime := none

/-- How the runner ended. -/
def result? (d : Delivery) : Option RunnerEnd :=
  match d.runner.phase with
  | .finished result => some result
  | _ => none

/-- One step of the runner, or none while it has to wait. -/
def step (d : Delivery) : Option Delivery :=
  (d.runner.step d.outlet d.env d.credentials d.runner.cancelled).map
    fun (runner, outlet, env, f) =>
    let d := { d with runner, outlet, env, alarms := d.alarms.reportAny f }
    if runner.isRunning then d
    else
      { d with
        outlet := if outlet.writable then outlet.discard env.now else outlet
        endTime := some env.now }

instance : Clocked Delivery where
  now d := d.env.now
  setTime d now := { d with env := { d.env with now } }
  step := Delivery.step
  deadlines d := d.runner.deadline?.toList ++ d.env.source.backend.deadlines

end Delivery

end WatchRelay
