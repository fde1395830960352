import WatchRelay.Connection.Outlet
import WatchRelay.Session.Surroundings

/-! Runners: each carries the changes of one watch to the client. -/

namespace WatchRelay

/-- Why a runner stopped. -/
inductive RunnerEnd where
  | cancelled
  | streamEnded
  | openFailed
  | streamFailed
  | sinkClosed
deriving DecidableEq, Repr

namespace RunnerEnd

/-- Whether the backend is to blame. -/
def isFailure : RunnerEnd → Bool
  | .openFailed | .streamFailed => true
  | _ => false

end RunnerEnd

/-- What a runner is doing. -/
inductive RunnerPhase where
  | spawned
  /-- It waits for a backend that never answers. -/
  | opening
  | streaming (watch : Nat)
  | forwarding (watch : Nat) (message : Message) (stage : WriteStage)
  | finished (reason : RunnerEnd)
  | crashed
  | aborted
deriving DecidableEq, Repr

/-- A runner. -/
structure Runner where
  id : Nat
  kind : ResourceKind
  project : String
  /-- Whether it was told to stop. -/
  cancelled : Bool
  phase : RunnerPhase
  /-- Whether its end was taken note of. -/
  joined : Bool
deriving Repr

namespace Runner

/-- A runner that has not begun. -/
def new (id : Nat) (kind : ResourceKind) (project : String) : Runner :=
  ⟨id, kind, project, false, .spawned, false⟩

/-- Whether a runner has an end still to come. -/
def isRunning (r : Runner) : Bool :=
  match r.phase with
  | .spawned | .opening | .streaming _ | .forwarding _ _ _ => true
  | .finished _ | .crashed | .aborted => false

/-- Whether a runner has begun and is not gone. -/
def isActive (r : Runner) : Bool :=
  match r.phase with
  | .opening | .streaming _ | .forwarding _ _ _ => true
  | _ => false

/-- The watch a runner holds. -/
def watch? (r : Runner) : Option Nat :=
  match r.phase with
  | .streaming w | .forwarding w _ _ => some w
  | _ => none

/-- Closes the watch a runner holds. -/
def letGo (r : Runner) (e : Surroundings) : Surroundings :=
  match r.watch? with
  | some w => e.close w
  | none => e

/-- What a step changes: the runner, the write side, the surroundings, and a failure to report. -/
abbrev Change := Runner × Outlet × Surroundings × Option SessionFailure

/-- A runner that has begun stops. -/
def finish (r : Runner) (o : Outlet) (e : Surroundings) (reason : RunnerEnd)
    (failure : Option SessionFailure) : Change :=
  let e := (r.letGo e).count .runnerGone
  let e := if reason.isFailure then e.count (·.runnerFailed r.kind) else e
  ({ r with phase := .finished reason }, o, e, failure)

/-- A runner that has begun breaks down. -/
def crash (r : Runner) (o : Outlet) (e : Surroundings) : Change :=
  ({ r with phase := .crashed }, o, (r.letGo e).count .runnerGone, none)

/-- Asks the backend for the watch. -/
def openWatch (r : Runner) (o : Outlet) (e : Surroundings) (credentials : Credentials) : Change :=
  let request := WatchRequest.live r.kind r.project
  let e := { e with requests := e.requests.push (request, credentials) }
  let (answer, source) := e.source.openWatch request credentials
  let e := { e with source }
  match answer with
  | .opened w => ({ r with phase := .streaming w }, o, e, none)
  | .refused _ => r.finish o e .openFailed none
  | .never => ({ r with phase := .opening }, o, e, none)
  | .crash => r.crash o e

/-- Does with a reading what it calls for, or nothing while there is nothing. -/
def consume (r : Runner) (o : Outlet) (e : Surroundings) (w : Nat) : Reading → Option Change
  | .event event =>
    match event.notification? r.kind with
    | none => some (r, o, e, none)
    | some m => some ({ r with phase := .forwarding w m .queued }, o.join (.runner r.id), e, none)
  | .failure _ => some (r.finish o e .streamFailed none)
  | .ended => some (r.finish o e .streamEnded none)
  | .crash => some (r.crash o e)
  | .passed => some (r, o, e, none)
  | .pending => none

/-- One step of a runner, or none while there is nothing to do.

A runner that was stopped notices it before it opens or reads a watch.
A write it has begun is not broken off.

The first step asks for the watch and takes the answer at once.
A backend that takes its time to answer is one whose runner takes its first step late.
Only a backend that never answers leaves a runner in `.opening`, where no answer comes to it. -/
def step (r : Runner) (o : Outlet) (e : Surroundings) (credentials : Credentials)
    (stopped : Bool) : Option Change :=
  match r.phase with
  | .spawned =>
    let e := e.count .runnerBegun
    if stopped then some (r.finish o e .cancelled none) else some (r.openWatch o e credentials)
  | .opening => if stopped then some (r.finish o e .cancelled none) else none
  | .streaming w =>
    if stopped then some (r.finish o e .cancelled none)
    else
      let (reading, source) := e.source.read e.now w
      r.consume o { e with source } w reading
  | .forwarding w m stage =>
    match o.stepWrite e.now (.runner r.id) (.message m) stage with
    | none => none
    | some (o, .on stage) => some ({ r with phase := .forwarding w m stage }, o, e, none)
    | some (o, .done true f) =>
      some ({ r with phase := .streaming w }, o, e.count (·.eventForwarded r.kind), f)
    | some (o, .done false f) => some (r.finish o e .sinkClosed f)
  | .finished _ | .crashed | .aborted => none

/-- When a runner has something to do. -/
def deadline? (r : Runner) : Option Nat :=
  match r.phase with
  | .forwarding _ _ stage => stage.deadline?
  | _ => none

/-- Stops a runner from outside; its place in line and its watch are given up. -/
def abort (r : Runner) (o : Outlet) (e : Surroundings) : Runner × Outlet × Surroundings :=
  if r.isRunning then
    let e := r.letGo e
    ({ r with phase := .aborted }, o.leave (.runner r.id),
      if r.isActive then e.count .runnerGone else e)
  else (r, o, e)

end Runner

end WatchRelay
