import WatchRelay.Proofs.Connection.WriteSide
import WatchRelay.Proofs.Session.Run

/-! What each move of a session can do, case by case. -/

namespace WatchRelay

/-- What one step of receiving can do. -/
inductive Receiver.Steps (r : Receiver) (now : Nat) (cancelled : Bool) :
    Receiver → Option SessionFailure → Prop where
  | told {deadline : Nat} (reads : r.phase = .reading deadline) (told : cancelled = true) :
      Steps r now cancelled (r.finish .cancelled) none
  | decoded {deadline : Nat} {frame : InFrame} {rest : List InFrame} {request : Request}
      (reads : r.phase = .reading deadline) (untold : cancelled = false)
      (first : r.arrived = frame :: rest)
      (means : Receiver.meaning r.maxMessageSize frame = .request request) :
      Steps r now cancelled { r with arrived := rest, phase := .handing request } none
  | noticed {deadline : Nat} {frame : InFrame} {rest : List InFrame}
      (reads : r.phase = .reading deadline) (untold : cancelled = false)
      (first : r.arrived = frame :: rest)
      (means : Receiver.meaning r.maxMessageSize frame = .activity) :
      Steps r now cancelled { r with arrived := rest, phase := .reading (now + r.liveness) } none
  | parted {deadline : Nat} {frame : InFrame} {rest : List InFrame}
      (reads : r.phase = .reading deadline) (untold : cancelled = false)
      (first : r.arrived = frame :: rest)
      (means : Receiver.meaning r.maxMessageSize frame = .goodbye) :
      Steps r now cancelled (r.finish .peerClosed) none
  | failed {deadline : Nat} {frame : InFrame} {rest : List InFrame} {f : SessionFailure}
      (reads : r.phase = .reading deadline) (untold : cancelled = false)
      (first : r.arrived = frame :: rest)
      (means : Receiver.meaning r.maxMessageSize frame = .fault f) :
      Steps r now cancelled (r.fail f).1 (some f)
  | ended {deadline : Nat} (reads : r.phase = .reading deadline) (untold : cancelled = false)
      (empty : r.arrived = []) (hungUp : r.ended = true) :
      Steps r now cancelled (r.finish .peerClosed) none
  | lost {deadline : Nat} (reads : r.phase = .reading deadline) (untold : cancelled = false)
      (empty : r.arrived = []) (late : deadline ≤ now) :
      Steps r now cancelled (r.fail (.livenessTimeout (.ofMillis r.liveness))).1
        (some (.livenessTimeout (.ofMillis r.liveness)))
  | stopped {request : Request} (hands : r.phase = .handing request)
      (told : cancelled = true ∨ r.taken = false) :
      Steps r now cancelled (r.finish .cancelled) none
  | handed {request : Request} (hands : r.phase = .handing request) (untold : cancelled = false)
      (taken : r.taken = true) (room : r.queue.length < r.capacity) :
      Steps r now cancelled
        { r with phase := .reading (now + r.liveness), queue := r.queue ++ [request] } none

/-- Every step of receiving is one of these. -/
theorem Receiver.step_steps {r r' : Receiver} {now : Nat} {cancelled : Bool}
    {f : Option SessionFailure} (moved : r.step now cancelled = some (r', f)) :
    r.Steps now cancelled r' f := by
  unfold Receiver.step at moved
  split at moved
  · next deadline reads =>
    -- A receiver that reads is told to stop, finds a frame, or finds that none has come in time.
    split at moved
    · next told => cases moved; exact .told reads told
    · next untold =>
      have untold : cancelled = false := by simpa using untold
      split at moved
      · next frame rest first =>
        -- The frame decides by what it means.
        dsimp only at moved
        split at moved
        · next means => cases moved; exact .decoded reads untold first means
        · next means => cases moved; exact .noticed reads untold first means
        · next means => cases moved; exact .parted reads untold first means
        · next means => cases moved; exact .failed reads untold first means
      · next empty =>
        split at moved
        · next ended => cases moved; exact .ended reads untold empty ended
        · split at moved
          · next late => cases moved; exact .lost reads untold empty late
          · cases moved
  · next request hands =>
    -- One that has a request in hand waits for room in the queue.
    split at moved
    · next told => cases moved; exact .stopped hands (by simpa using told)
    · next untold =>
      have untold : cancelled = false ∧ r.taken = true := by simpa using untold
      split at moved
      · next room => cases moved; exact .handed hands untold.1 untold.2 room
      · cases moved
  · cases moved
  · cases moved

/-- What one step of keep-alive can do. -/
inductive KeepAlive.Steps (k : KeepAlive) (o : Outlet) (now : Nat) (cancelled : Bool) :
    KeepAlive → Outlet → Option SessionFailure → Prop where
  | told {due : Nat} (waits : k.phase = .waiting due) (told : cancelled = true) :
      Steps k o now cancelled { k with phase := .finished .cancelled } o none
  | ticked {due : Nat} (waits : k.phase = .waiting due) (untold : cancelled = false)
      (time : due ≤ now) :
      Steps k o now cancelled { k with phase := .pinging (k.tickAfter due now) .queued }
        (o.join .keepAlive) none
  | wrote {next : Nat} {stage stage' : WriteStage} {o' : Outlet}
      (pings : k.phase = .pinging next stage)
      (writes : o.stepWrite now .keepAlive .ping stage = some (o', .on stage')) :
      Steps k o now cancelled { k with phase := .pinging next stage' } o' none
  | pinged {next : Nat} {stage : WriteStage} {o' : Outlet} {f : Option SessionFailure}
      (pings : k.phase = .pinging next stage)
      (writes : o.stepWrite now .keepAlive .ping stage = some (o', .done true f)) :
      Steps k o now cancelled { k with phase := .waiting next } o' f
  | failed {next : Nat} {stage : WriteStage} {o' : Outlet} {f : Option SessionFailure}
      (pings : k.phase = .pinging next stage)
      (writes : o.stepWrite now .keepAlive .ping stage = some (o', .done false f)) :
      Steps k o now cancelled { k with phase := .finished .sendFailed } o' f

/-- Every step of keep-alive is one of these. -/
theorem KeepAlive.step_steps {k k' : KeepAlive} {o o' : Outlet} {now : Nat} {cancelled : Bool}
    {f : Option SessionFailure} (moved : k.step o now cancelled = some (k', o', f)) :
    k.Steps o now cancelled k' o' f := by
  unfold KeepAlive.step at moved
  split at moved
  · next due waits =>
    -- Between two pings keep-alive waits for its time.
    split at moved
    · next told => cases moved; exact .told waits told
    · next untold =>
      split at moved
      · next time => cases moved; exact .ticked waits (by simpa using untold) time
      · cases moved
  · next next_ stage pings =>
    -- What becomes of the write decides what becomes of keep-alive.
    split at moved
    · cases moved
    · next moved' => cases moved; exact .wrote pings moved'
    · next moved' => cases moved; exact .pinged pings moved'
    · next moved' => cases moved; exact .failed pings moved'
  · cases moved
  · cases moved

/-- What one step of a runner can do. -/
inductive Runner.Steps (r : Runner) (o : Outlet) (e : Surroundings) (credentials : Credentials)
    (stopped : Bool) : Runner.Change → Prop where
  /-- It is told to stop before it opens its watch. -/
  | toldFirst (spawned : r.phase = .spawned) (told : stopped = true) :
      Steps r o e credentials stopped (r.finish o (e.count .runnerBegun) .cancelled none)
  | opened (spawned : r.phase = .spawned) (untold : stopped = false) :
      Steps r o e credentials stopped (r.openWatch o (e.count .runnerBegun) credentials)
  /-- It is told to stop while it waits for its watch or for an event. -/
  | told (waits : r.phase = .opening ∨ ∃ w, r.phase = .streaming w) (told : stopped = true) :
      Steps r o e credentials stopped (r.finish o e .cancelled none)
  | consumed {w : Nat} {change : Runner.Change} (waits : r.phase = .streaming w)
      (untold : stopped = false)
      (consumes : r.consume o { e with source := (e.source.read e.now w).2 } w
        (e.source.read e.now w).1 = some change) : Steps r o e credentials stopped change
  | wrote {w : Nat} {m : Message} {stage stage' : WriteStage} {o' : Outlet}
      (forwards : r.phase = .forwarding w m stage)
      (writes : o.stepWrite e.now (.runner r.id) (.message m) stage =
        some (o', .on stage')) :
      Steps r o e credentials stopped ({ r with phase := .forwarding w m stage' }, o', e, none)
  | forwarded {w : Nat} {m : Message} {stage : WriteStage} {o' : Outlet}
      {f : Option SessionFailure} (forwards : r.phase = .forwarding w m stage)
      (writes : o.stepWrite e.now (.runner r.id) (.message m) stage =
        some (o', .done true f)) :
      Steps r o e credentials stopped
        ({ r with phase := .streaming w }, o', e.count (·.eventForwarded r.kind), f)
  | failed {w : Nat} {m : Message} {stage : WriteStage} {o' : Outlet}
      {f : Option SessionFailure} (forwards : r.phase = .forwarding w m stage)
      (writes : o.stepWrite e.now (.runner r.id) (.message m) stage =
        some (o', .done false f)) :
      Steps r o e credentials stopped (r.finish o' e .sinkClosed f)

/-- Every step of a runner is one of these. -/
theorem Runner.step_steps {r : Runner} {o : Outlet} {e : Surroundings} {credentials : Credentials}
    {stopped : Bool} {change : Runner.Change}
    (moved : r.step o e credentials stopped = some change) :
    r.Steps o e credentials stopped change := by
  unfold Runner.step at moved
  split at moved
  · next spawned =>
    -- A runner opens its watch first, if it is not told to stop by then.
    simp only at moved
    split at moved
    · next told => cases moved; exact .toldFirst spawned told
    · next untold => cases moved; exact .opened spawned (by simpa using untold)
  · next opening =>
    split at moved
    · next told => cases moved; exact .told (.inl opening) told
    · cases moved
  · next w streaming =>
    -- Then it reads from the watch until it is told to stop.
    split at moved
    · next told => cases moved; exact .told (.inr ⟨w, streaming⟩) told
    · next untold => exact .consumed streaming (by simpa using untold) moved
  · next w m stage forwards =>
    -- A report that it has begun to write it writes to the end, told to stop or not.
    split at moved
    · cases moved
    · next moved' => cases moved; exact .wrote forwards moved'
    · next moved' => cases moved; exact .forwarded forwards moved'
    · next moved' => cases moved; exact .failed forwards moved'
  · cases moved
  · cases moved
  · cases moved

namespace Session

/-- The session after an acknowledgment, with the runner that is due. -/
def acknowledged (s : Session) (o : Outlet) (f : Option SessionFailure)
    (start : Option (ResourceKind × String)) : Session :=
  let s := { s with outlet := o, alarms := s.alarms.reportAny f, loop := .selecting }
  match start with
  | some (kind, project) => s.spawn kind project
  | none => s

/-- What one step of the event loop can do. -/
inductive LoopSteps (s : Session) (e : Surroundings) : Session → Surroundings → Prop where
  | told (selects : s.loop = .selecting) (told : s.cancelled = true) :
      LoopSteps s e ({ s with closeCode := .away }.leave e.now) e
  | failed {f : SessionFailure} {rest : List SessionFailure} (selects : s.loop = .selecting)
      (untold : s.cancelled = false) (alarm : s.alarms.queue = f :: rest) :
      LoopSteps s e
        ({ s with
          alarms := { s.alarms with queue := rest }
          closeCode := CloseCode.ofFailure f }.leave e.now)
        (e.count (·.sessionFailed f.category))
  | dispatched {request : Request} {rest : List Request} (selects : s.loop = .selecting)
      (untold : s.cancelled = false) (calm : s.alarms.queue = [])
      (waiting : s.receiver.queue = request :: rest) :
      LoopSteps s e ({ s with receiver := { s.receiver with queue := rest } }.dispatch request) e
  | ended (selects : s.loop = .selecting) (untold : s.cancelled = false)
      (calm : s.alarms.queue = []) (empty : s.receiver.queue = [])
      (ended : s.receiver.isRunning = false) : LoopSteps s e (s.leave e.now) e
  | reaped {r : Runner} (selects : s.loop = .selecting) (untold : s.cancelled = false)
      (calm : s.alarms.queue = []) (empty : s.receiver.queue = [])
      (runs : s.receiver.isRunning = true) (stopped : s.stopped? = some r) :
      LoopSteps s e (s.reap r) e
  | wrote {m : Message} {stage stage' : WriteStage} {o' : Outlet}
      {start : Option (ResourceKind × String)} (answers : s.loop = .acknowledging m stage start)
      (writes : s.outlet.stepWrite e.now .eventLoop (.message m) stage = some (o', .on stage')) :
      LoopSteps s e { s with outlet := o', loop := .acknowledging m stage' start } e
  | answered {m : Message} {stage : WriteStage} {o' : Outlet} {ok : Bool}
      {f : Option SessionFailure} {start : Option (ResourceKind × String)}
      (answers : s.loop = .acknowledging m stage start)
      (writes : s.outlet.stepWrite e.now .eventLoop (.message m) stage = some (o', .done ok f)) :
      LoopSteps s e (s.acknowledged o' f start) e
  | drained {deadline : Nat} (drains : s.loop = .draining deadline)
      (stopped : ∀ r ∈ s.runners, r.isRunning = false) :
      LoopSteps s e (s.endLoop (.finished e.now)) e
  /-- The deadline has come, and the runners that are left are stopped from outside. -/
  | aborted {deadline : Nat} (drains : s.loop = .draining deadline) (late : deadline ≤ e.now) :
      LoopSteps s e ((s.abortRunners e).1.endLoop (.finished (s.abortRunners e).2.now))
        (s.abortRunners e).2

/-- Every step of the event loop is one of these. -/
theorem stepLoop_steps {s s' : Session} {e e' : Surroundings}
    (moved : s.stepLoop e = some (s', e')) : s.LoopSteps e s' e' := by
  unfold stepLoop at moved
  split at moved
  · next selects =>
    -- What may happen is tried in order, and the first that can happen does.
    split at moved
    · next told => cases moved; exact .told selects told
    · next untold =>
      have untold : s.cancelled = false := by simpa using untold
      split at moved
      · next alarm => cases moved; exact .failed selects untold alarm
      · next calm =>
        -- The first request is taken, if there is one.
        split at moved
        · next request receiver taken =>
          unfold Receiver.take? at taken
          split at taken
          · next waiting =>
            cases taken
            cases moved
            exact .dispatched selects untold calm waiting
          · cases taken
        · next none =>
          have empty : s.receiver.queue = [] := by
            unfold Receiver.take? at none
            split at none
            · cases none
            · next empty => exact empty
          split at moved
          · next ended =>
            cases moved
            exact .ended selects untold calm empty (by simpa using ended)
          · next runs =>
            split at moved
            · next stopped =>
              cases moved
              exact .reaped selects untold calm empty (by simpa using runs) stopped
            · cases moved
  · next answers =>
    -- An acknowledgment is written to the end before anything else is looked at.
    split at moved
    · cases moved
    · next moved' => cases moved; exact .wrote answers moved'
    · next ok f moved' =>
      have answered := LoopSteps.answered answers moved'
      simp only [acknowledged] at answered
      split at moved <;> cases moved <;> exact answered
  · next drains =>
    -- Behind the loop, the runners are waited for until the deadline.
    split at moved
    · next stopped => cases moved; exact .drained drains (by simpa using stopped)
    · split at moved
      · next late => cases moved; exact .aborted drains late
      · cases moved
  · cases moved
  · cases moved
  · cases moved

/-- What one step of a call that tears the session down can do. -/
inductive TeardownSteps (s : Session) (e : Surroundings) (call : Nat) :
    Session → Surroundings → Prop where
  | begun {deadline : Nat} (waits : s.teardown? call = some (.waiting deadline))
      (still : s.loopsOver = true) : TeardownSteps s e call (s.beginClose call) e
  /-- The deadline has come, and the loops that are left are stopped from outside. -/
  | aborted {deadline : Nat} (waits : s.teardown? call = some (.waiting deadline))
      (late : deadline ≤ e.now) : TeardownSteps s e call (s.abortLoops.beginClose call) e
  | wrote {code : CloseCode} {stage stage' : CloseStage} {o' : Outlet}
      (closing : s.teardown? call = some (.closing code stage))
      (closes : s.outlet.stepClose e.now (.call call) (some ⟨code.number, code.reason⟩) stage =
        some (o', .on stage')) :
      TeardownSteps s e call ({ s with outlet := o' }.setTeardown call (.closing code stage')) e
  | closed {code : CloseCode} {stage : CloseStage} {o' : Outlet} {ok : Bool}
      {f : Option SessionFailure} (closing : s.teardown? call = some (.closing code stage))
      (closes : s.outlet.stepClose e.now (.call call) (some ⟨code.number, code.reason⟩) stage =
        some (o', .done ok f)) :
      TeardownSteps s e call
        ({ s with outlet := o', state := s.state.advance .closed }.setTeardown call .finished)
        (e.count .sessionClosed)
  | watched {deadline : Nat} (watches : s.teardown? call = some (.watching deadline))
      (due : s.state = .closed ∨ deadline ≤ e.now) :
      TeardownSteps s e call (s.setTeardown call .finished) e

/-- Every step of a call that tears the session down is one of these. -/
theorem stepTeardown_steps {s s' : Session} {e e' : Surroundings} {call : Nat}
    (moved : s.stepTeardown e call = some (s', e')) : s.TeardownSteps e call s' e' := by
  unfold stepTeardown at moved
  split at moved
  · next waits =>
    -- The loops are waited for until the deadline, and the connection is closed behind them.
    split at moved
    · next still => cases moved; exact .begun waits still
    · split at moved
      · next late => cases moved; exact .aborted waits late
      · cases moved
  · next closing =>
    dsimp only at moved
    split at moved
    · cases moved
    · next moved' => cases moved; exact .wrote closing moved'
    · next moved' => cases moved; exact .closed closing moved'
  · next watches =>
    split at moved
    · next due => cases moved; exact .watched watches due
    · cases moved
  · cases moved
  · cases moved

/-- What each move can do. -/
inductive Moves (s : Session) (e : Surroundings) : Move → Session → Surroundings → Prop where
  | received {r : Receiver} {f : Option SessionFailure}
      (steps : s.receiver.Steps e.now s.cancelled r f) :
      Moves s e (.task .receiver) { s with receiver := r, alarms := s.alarms.reportAny f } e
  | looped {s' : Session} {e' : Surroundings} (steps : s.LoopSteps e s' e') :
      Moves s e (.task .eventLoop) s' e'
  | keptAlive {k : KeepAlive} {o : Outlet} {f : Option SessionFailure}
      (steps : s.keepAlive.Steps s.outlet e.now s.cancelled k o f) :
      Moves s e (.task .keepAlive)
        { s with keepAlive := k, outlet := o, alarms := s.alarms.reportAny f } e
  | ran {id : Nat} {r r' : Runner} {o : Outlet} {e' : Surroundings} {f : Option SessionFailure}
      (found : s.runners[id]? = some r)
      (steps : r.Steps s.outlet e s.credentials (r.cancelled || s.cancelled) (r', o, e', f)) :
      Moves s e (.task (.runner id))
        { s with outlet := o, runners := s.runners.set id r', alarms := s.alarms.reportAny f } e'
  | closed {call : Nat} {s' : Session} {e' : Surroundings}
      (steps : s.TeardownSteps e call s' e') : Moves s e (.task (.teardown call)) s' e'
  | arrived (frame : InFrame) :
      Moves s e (.arrive frame) { s with receiver := s.receiver.arrive frame } e
  | hungUp : Moves s e .hangUp { s with receiver := s.receiver.hangUp } e
  | rewired (wire : WireState) :
      Moves s e (.wire wire) { s with outlet := { s.outlet with wire } } e
  | told : Moves s e .cancel { s with cancelled := true } e
  | called {call : Nat} (fresh : s.teardown? call = none) :
      Moves s e (.teardown call) (s.beginTeardown call e.now) e
  | shared {hub : Hub} {action : HubAction} (backend : e.source.backend = .catalog hub)
      (alone : s.leavesAlone action = true) :
      Moves s e (.catalog action) s
        { e with source := { e.source with backend := .catalog (hub.act action) } }
  | passed (env : Surroundings) : Moves s e (.outside env) s env

/-- Every move is one of these. -/
theorem move_moves {s s' : Session} {e e' : Surroundings} {m : Move}
    (moved : s.move e m = some (s', e')) : s.Moves e m s' e' := by
  cases m with
  | task task =>
    -- Each task takes its own step.
    cases task with
    | receiver =>
      obtain ⟨⟨r, f⟩, stepped, same⟩ := Option.map_eq_some_iff.mp moved
      cases same
      exact .received (Receiver.step_steps stepped)
    | eventLoop => exact .looped (stepLoop_steps moved)
    | keepAlive =>
      obtain ⟨⟨k, o, f⟩, stepped, same⟩ := Option.map_eq_some_iff.mp moved
      cases same
      exact .keptAlive (KeepAlive.step_steps stepped)
    | runner id =>
      -- A number without a runner takes no step.
      simp only [move, step] at moved
      split at moved
      · cases moved
      · next r found =>
        obtain ⟨⟨r', o, e'', f⟩, stepped, same⟩ := Option.map_eq_some_iff.mp moved
        cases same
        exact .ran found (Runner.step_steps stepped)
    | teardown call => exact .closed (stepTeardown_steps moved)
  | arrive frame => cases moved; exact .arrived frame
  | hangUp => cases moved; exact .hungUp
  | wire wire => cases moved; exact .rewired wire
  | cancel => cases moved; exact .told
  | teardown call =>
    simp only [move] at moved
    split at moved
    · next fresh => cases moved; exact .called (by simpa using fresh)
    · cases moved
  | catalog action =>
    simp only [move] at moved
    split at moved
    · next hub backend =>
      split at moved
      · next alone => cases moved; exact .shared backend alone
      · cases moved
    · cases moved
  | outside env => cases moved; exact .passed _

end Session

end WatchRelay
