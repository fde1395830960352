import WatchRelay.Connection.Outlet
import WatchRelay.Connection.Receiver
import WatchRelay.Time.Clocked

/-! A receiver at work on its own, with a consumer that takes its requests one by one. -/

namespace WatchRelay

/-- A receiver with its clock and what it has reported. -/
structure Reception where
  now : Nat
  receiver : Receiver
  alarms : Alarms
  /-- Whether it was told to stop. -/
  cancelled : Bool
  /-- When it stopped. -/
  endTime : Option Nat
deriving Repr

namespace Reception

/-- A receiver at the start of time, if there can be a queue with that room for its requests. -/
def start? (liveness maxMessageSize capacity : Nat) : Option Reception :=
  if isQueueRoom capacity then
    some ⟨0, .new 0 liveness maxMessageSize capacity, ⟨[], Alarms.sessionCapacity⟩,
      false, none⟩
  else none

/-- How receiving ended. -/
def result? (r : Reception) : Option ReceiveEnd :=
  match r.receiver.phase with
  | .finished result => some result
  | _ => none

/-- One step of the receiver, or none while it has to wait. -/
def step (r : Reception) : Option Reception :=
  (r.receiver.step r.now r.cancelled).map fun (receiver, f) =>
    { r with
      receiver, alarms := r.alarms.reportAny f
      endTime := if receiver.isRunning then none else some r.now }

instance : Clocked Reception where
  now := Reception.now
  setTime r now := { r with now }
  step := Reception.step
  deadlines r := r.receiver.deadline?.toList

/-- Takes up to so many requests; the receiver goes on after each. -/
def take : Nat → Reception → List Request × Reception
  | 0, r => ([], r)
  | count + 1, r =>
    match r.receiver.take? with
    | none => ([], r)
    | some (request, receiver) =>
      let (requests, r) := take count (Clocked.settle { r with receiver })
      (request :: requests, r)

/-- The failures that wait to be seen, and the receiver without them. -/
def drainAlarms (r : Reception) : List SessionFailure × Reception :=
  (r.alarms.queue, { r with alarms := { r.alarms with queue := [] } })

end Reception

end WatchRelay
