import WatchRelay.Session.Basic

/-! The event loop of a session: it alone starts and stops runners. -/

namespace WatchRelay

namespace Session

/-- Writes an acknowledgment, and starts a runner after it if one is given. -/
def acknowledge (s : Session) (message : Message) (start : Option (ResourceKind × String)) :
    Session :=
  { s with outlet := s.outlet.join .eventLoop, loop := .acknowledging message .queued start }

/-- Removes the record of a kind and tells its runner to stop. -/
def release (s : Session) (kind : ResourceKind) : Session :=
  match s.active.get kind with
  | some id => { s.cancelRunner id with active := s.active.set kind none }
  | none => s

/-- Acts on a request.

A kind that is not the catalog's is acknowledged and has no runner, and a kind whose runner runs
keeps it. -/
def dispatch (s : Session) : Request → Session
  | .subscribe kind project =>
    let start := match kind.resource? with
      | none => none
      | some k => if (s.active.get k).any s.runs then none else some (k, project)
    s.acknowledge (.subscribed kind) start
  | .unsubscribe kind =>
    let s := match kind.resource? with
      | some k => s.release k
      | none => s
    s.acknowledge (.unsubscribed kind) none
  | .ignored _ => s

/-- Starts a runner and records it. -/
def spawn (s : Session) (kind : ResourceKind) (project : String) : Session :=
  let id := s.runners.length
  { s with
    runners := s.runners ++ [.new id kind project]
    active := s.active.set kind (some id) }

/-- Forgets the recorded runners that do not run any more. -/
def retainRunning (s : Session) : Session :=
  let keep (entry : Option Nat) : Option Nat := entry.filter s.runs
  { s with
    active := ⟨keep s.active.registry, keep s.active.artifact, keep s.active.application,
      keep s.active.deploymentPackage⟩ }

/-- The first runner that has stopped and was not taken note of. -/
def stopped? (s : Session) : Option Runner := s.runners.find? fun r => !r.isRunning && !r.joined

/-- Takes note of a runner's end. -/
def reap (s : Session) (r : Runner) : Session :=
  (s.modifyRunner r.id fun r => { r with joined := true }).retainRunning

/-- Leaves the loop: the session closes and every recorded runner is told to stop. -/
def leave (s : Session) (now : Nat) : Session :=
  let s := ResourceKind.all.foldl Session.release s.beginClosing
  { s with loop := .draining (now + s.config.teardownTimeout) }

/-- Ends the loop: nothing is taken from the queues any more. -/
def endLoop (s : Session) (phase : LoopPhase) : Session :=
  { s with loop := phase, alarms := ⟨[], 0⟩, receiver := s.receiver.close }

/-- The session with its event loop given up before it ran. -/
def discardLoop (s : Session) : Session := s.endLoop .discarded

/-- The session with an event loop that nobody runs. -/
def idleLoop (s : Session) : Session := { s with loop := .idle }

/-- Stops the runners that are left from outside. -/
def abortRunners (s : Session) (e : Surroundings) : Session × Surroundings :=
  s.runners.foldl (fun (s, e) r =>
    let (r, outlet, e) := r.abort s.outlet e
    ({ s with outlet, runners := s.runners.set r.id r }, e)) (s, e)

/-- One step of the event loop, or none while there is nothing to do.

A cancelled session comes first, then a failure, then a request, then a stopped runner. -/
def stepLoop (s : Session) (e : Surroundings) : Option (Session × Surroundings) :=
  match s.loop with
  | .selecting =>
    if s.cancelled then some ({ s with closeCode := .away }.leave e.now, e)
    else
      match s.alarms.queue with
      | f :: rest =>
        let s := { s with
          alarms := { s.alarms with queue := rest }
          closeCode := CloseCode.ofFailure f }
        some (s.leave e.now, e.count (·.sessionFailed f.category))
      | [] =>
        match s.receiver.take? with
        | some (request, receiver) => some ({ s with receiver }.dispatch request, e)
        | none =>
          if !s.receiver.isRunning then some (s.leave e.now, e)
          else
            match s.stopped? with
            | some r => some (s.reap r, e)
            | none => none
  | .acknowledging message stage start =>
    match s.outlet.stepWrite e.now .eventLoop (.message message) stage with
    | none => none
    | some (outlet, .on stage) =>
      some ({ s with outlet, loop := .acknowledging message stage start }, e)
    | some (outlet, .done _ f) =>
      let s := { s with outlet, alarms := s.alarms.reportAny f, loop := .selecting }
      match start with
      | some (kind, project) => some (s.spawn kind project, e)
      | none => some (s, e)
  | .draining deadline =>
    if s.runners.all fun r => !r.isRunning then some (s.endLoop (.finished e.now), e)
    else if deadline ≤ e.now then
      let (s, e) := s.abortRunners e
      some (s.endLoop (.finished e.now), e)
    else none
  | .idle | .finished _ | .discarded => none

/-- When the event loop has something to do. -/
def loopDeadline? (s : Session) : Option Nat :=
  match s.loop with
  | .acknowledging _ stage _ => stage.deadline?
  | .draining deadline => some deadline
  | _ => none

end Session

end WatchRelay
