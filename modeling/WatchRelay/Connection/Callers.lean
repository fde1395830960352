import WatchRelay.Connection.Outlet
import WatchRelay.Time.Clocked

/-! The write side of a connection with those who call on it: each call waits for its turn. -/

namespace WatchRelay

/-- What a caller asks of the write side, and how far that has come. -/
inductive Errand where
  | write (frame : OutFrame) (stage : WriteStage)
  | close (frame : Option CloseFrame) (stage : CloseStage)
  /-- Asks whether the write half is gone. -/
  | ask
deriving DecidableEq, Repr

/-- A call that has not returned. -/
structure OutletCall where
  /-- What the caller knows it by. -/
  tag : Nat
  errand : Errand
deriving Repr

/-- What a call returned. -/
structure OutletReturn where
  tag : Nat
  result : Bool
  time : Nat
deriving Repr

/-- The write side of a connection, with the calls on it. -/
structure Callers where
  now : Nat
  outlet : Outlet
  alarms : Alarms
  pending : List OutletCall
  returned : Array OutletReturn
deriving Repr

namespace Callers

/-- A connection at the start of time, if there can be a queue with that room for its failures. -/
def start? (wire : WireState) (limit room : Nat) : Option Callers :=
  if isQueueRoom room then some ⟨0, .new wire limit, ⟨[], room⟩, [], #[]⟩ else none

/-- A call begins: it gets in line. -/
def call (c : Callers) (tag : Nat) (errand : Errand) : Callers :=
  { c with outlet := c.outlet.join (.call tag), pending := c.pending ++ [⟨tag, errand⟩] }

/-- A call goes on. -/
def goOn (c : Callers) (tag : Nat) (outlet : Outlet) (errand : Errand) : Callers :=
  { c with
    outlet
    pending := c.pending.map fun p => if p.tag = tag then { p with errand } else p }

/-- A call returns, perhaps after a failure. -/
def giveBack (c : Callers) (tag : Nat) (outlet : Outlet) (result : Bool)
    (failure : Option SessionFailure) : Callers :=
  { c with
    outlet
    alarms := c.alarms.reportAny failure
    pending := c.pending.filter fun p => p.tag != tag
    returned := c.returned.push ⟨tag, result, c.now⟩ }

/-- One step of a call, or none while it has to wait. -/
def stepCall (c : Callers) (p : OutletCall) : Option Callers :=
  match p.errand with
  | .write frame stage =>
    (c.outlet.stepWrite c.now (.call p.tag) frame stage).map fun
      | (outlet, .on stage) => c.goOn p.tag outlet (.write frame stage)
      | (outlet, .done result f) => c.giveBack p.tag outlet result f
  | .close frame stage =>
    (c.outlet.stepClose c.now (.call p.tag) frame stage).map fun
      | (outlet, .on stage) => c.goOn p.tag outlet (.close frame stage)
      | (outlet, .done result f) => c.giveBack p.tag outlet result f
  | .ask =>
    (c.outlet.stepAsk (.call p.tag)).map fun (outlet, result) => c.giveBack p.tag outlet result none

/-- One step of the first call that has something to do, or none while all have to wait. -/
def step (c : Callers) : Option Callers := c.pending.findSome? c.stepCall

/-- When some call has something to do. -/
def deadlines (c : Callers) : List Nat :=
  c.pending.filterMap fun p =>
    match p.errand with
    | .write _ stage => stage.deadline?
    | .close _ stage => stage.deadline?
    | .ask => none

instance : Clocked Callers where
  now := Callers.now
  setTime c now := { c with now }
  step := Callers.step
  deadlines := Callers.deadlines

/-- Changes how the transport behaves. -/
def setWire (c : Callers) (wire : WireState) : Callers :=
  { c with outlet := { c.outlet with wire } }

/-- The failures that wait to be seen, and the connection without them. -/
def drainAlarms (c : Callers) : List SessionFailure × Callers :=
  (c.alarms.queue, { c with alarms := { c.alarms with queue := [] } })

end Callers

end WatchRelay
