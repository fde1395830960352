import WatchRelay.Session.EventLoop

/-! Tearing a session down, and the steps of all its tasks. -/

namespace WatchRelay

namespace Session

/-- The phase of a call that tears the session down. -/
def teardown? (s : Session) (call : Nat) : Option TeardownPhase := s.teardowns.lookup call

/-- Sets the phase of a call. -/
def setTeardown (s : Session) (call : Nat) (phase : TeardownPhase) : Session :=
  { s with teardowns := s.teardowns.map fun p => if p.1 = call then (call, phase) else p }

/-- A call to tear the session down begins: the session closes, and the first call takes on the
work. -/
def beginTeardown (s : Session) (call now : Nat) : Session :=
  let s := s.beginClosing
  let deadline := now + s.config.teardownTimeout
  let phase : TeardownPhase := if s.tornDown then .watching deadline else .waiting deadline
  { s with tornDown := true, teardowns := s.teardowns ++ [(call, phase)] }

/-- Gets in line for closing the connection, with the code that holds by now. -/
def beginClose (s : Session) (call : Nat) : Session :=
  { s with outlet := s.outlet.join (.call call) }.setTeardown call (.closing s.closeCode .queued)

/-- Whether the three loops are over. -/
def loopsOver (s : Session) : Bool :=
  s.loopFinished && !s.receiver.isRunning && !s.keepAlive.isRunning

/-- Stops the receiver and keep-alive from outside. -/
def abortLoops (s : Session) : Session :=
  let (keepAlive, outlet) := s.keepAlive.abort s.outlet
  { s with receiver := s.receiver.abort, keepAlive, outlet }

/-- One step of a call that tears the session down, or none while it has to wait. -/
def stepTeardown (s : Session) (e : Surroundings) (call : Nat) :
    Option (Session × Surroundings) :=
  match s.teardown? call with
  | some (.waiting deadline) =>
    if s.loopsOver then some (s.beginClose call, e)
    else if deadline ≤ e.now then some (s.abortLoops.beginClose call, e)
    else none
  | some (.closing code stage) =>
    let frame : CloseFrame := ⟨code.number, code.reason⟩
    match s.outlet.stepClose e.now (.call call) (some frame) stage with
    | none => none
    | some (outlet, .on stage) =>
      some ({ s with outlet }.setTeardown call (.closing code stage), e)
    | some (outlet, .done _ _) =>
      some ({ s with outlet, state := s.state.advance .closed }.setTeardown call .finished,
        e.count .sessionClosed)
  | some (.watching deadline) =>
    if s.state = .closed ∨ deadline ≤
      e.now then some (s.setTeardown call .finished, e) else none
  | some .finished | none => none

/-- The tasks of a session. -/
inductive Task where
  | receiver
  | eventLoop
  | keepAlive
  | runner (id : Nat)
  | teardown (call : Nat)
deriving DecidableEq, Repr

/-- The tasks every session has. -/
def Task.loops : List Task := [.receiver, .eventLoop, .keepAlive]

/-- The tasks of the runners a session has by now. -/
def runnerTasks (s : Session) : List Task := s.runners.map fun r => .runner r.id

/-- The tasks of the calls that tear a session down. -/
def teardownTasks (s : Session) : List Task := s.teardowns.map fun p => .teardown p.1

/-- One step of a task, or none while it has nothing to do. -/
def step (s : Session) (e : Surroundings) : Task → Option (Session × Surroundings)
  | .receiver =>
    (s.receiver.step e.now s.cancelled).map fun (receiver, f) =>
      ({ s with receiver, alarms := s.alarms.reportAny f }, e)
  | .eventLoop => s.stepLoop e
  | .keepAlive =>
    (s.keepAlive.step s.outlet e.now s.cancelled).map fun (keepAlive, outlet, f) =>
      ({ s with keepAlive, outlet, alarms := s.alarms.reportAny f }, e)
  | .runner id =>
    match s.runners[id]? with
    | none => none
    | some r =>
      (r.step s.outlet e s.credentials (r.cancelled || s.cancelled)).map fun (r, outlet, e, f) =>
        ({ s with outlet, runners := s.runners.set id r, alarms := s.alarms.reportAny f }, e)
  | .teardown call => s.stepTeardown e call

/-- When a call that tears the session down has something to do. -/
def teardownDeadline? : TeardownPhase → Option Nat
  | .waiting deadline | .watching deadline => some deadline
  | .closing _ stage => stage.deadline?
  | .finished => none

/-- The times at which some task of the session has something to do. -/
def deadlines (s : Session) : List Nat :=
  s.receiver.deadline?.toList ++ s.keepAlive.deadline?.toList ++ s.loopDeadline?.toList ++
    s.runners.filterMap Runner.deadline? ++ s.teardowns.filterMap fun p => teardownDeadline? p.2

end Session

end WatchRelay
