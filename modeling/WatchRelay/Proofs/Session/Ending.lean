import WatchRelay.Proofs.Session.Acknowledgment
import WatchRelay.Proofs.Session.Lifecycle
import WatchRelay.Proofs.Session.Origins

/-! What is left of a session when it is closed: nothing, if its event loop was over in time, and
otherwise only what ends by its own next steps. -/

namespace WatchRelay

/-- How many steps the event loop takes at most until it is over, in a session that is closed. -/
def LoopPhase.stepsLeft : LoopPhase → Nat
  -- Behind the acknowledgment a runner may be started, which takes a step as well.
  | .acknowledging _ _ _ => 4
  | .selecting => 2
  | .draining _ => 1
  | .idle | .finished _ | .discarded => 0

namespace Session

/-- Whether a task is the event loop or a runner: a call to tear the session down does not stop
these. -/
def Task.isInner : Task → Bool
  | .eventLoop | .runner _ => true
  | .receiver | .keepAlive | .teardown _ => false

/-- Whether a move is a step of the event loop or of a runner. -/
def Occasion.IsInner (o : Occasion) : Prop := ∃ task, o.move = .task task ∧ task.isInner = true

/-- Whether everything that works on a session has stopped. -/
structure HasStopped (s : Session) : Prop where
  loops : s.loopsOver = true
  runners : ∀ r ∈ s.runners, r.isRunning = false

/-- Whether a call that waits for the loops stops doing so before the event loop is over. -/
structure Occasion.GivesUp (o : Occasion) (call : Nat) : Prop where
  own : o.move = .task (.teardown call)
  waits : ∃ deadline, o.session.teardown? call = some (.waiting deadline) ∧
    deadline ≤ o.env.now
  goes : o.session.loopFinished = false

/-- Whether somebody closes the connection, or has done so. -/
def BeginsToClose (s : Session) : Prop :=
  s.state = .closed ∨ ∃ call code stage, s.teardown? call = some (.closing code stage)

/-- Whether the event loop or a runner has a next step. -/
def HasNextStep (s : Session) (e : Surroundings) : Prop :=
  ∃ task, task.isInner = true ∧ (s.move e (.task task)).isSome = true

/-- How many steps the event loop and the runners of a closed session take at most until all of them
have stopped. -/
def stepsLeft (s : Session) : Nat := s.loop.stepsLeft + s.runners.countP Runner.isRunning

variable {s s' s₀ : Session} {e e' e₀ : Surroundings} {past : List Occasion} {m : Move}

/-! ### Runners behind the event loop -/

/-- When the runners are stopped from outside, none runs any more. -/
theorem abortRunners_stopped (numbered : s.Numbered) (e : Surroundings) :
    ∀ r ∈ (s.abortRunners e).1.runners, r.isRunning = false := by
  have held := abortRunners_counts (e := e)
    (P := fun k t _ => t.runners.length = s.runners.length ∧
      ∀ i < k, ∀ r, t.runners[i]? = some r → r.isRunning = false)
    numbered ⟨rfl, fun i none => absurd none (Nat.not_lt_zero i)⟩ ?_
  · intro r member
    obtain ⟨i, found⟩ := List.getElem?_of_mem member
    obtain ⟨inside, -⟩ := List.getElem?_eq_some_iff.mp found
    exact held.2 i (held.1 ▸ inside) r found
  · rintro t x r there ⟨length, before⟩
    refine ⟨by simpa [abortRunner] using length, fun i upTo q found => ?_⟩
    -- The runner that is stopped does not run, and neither do those before it.
    by_cases own : i = r.id
    · obtain ⟨inside, -⟩ := List.getElem?_eq_some_iff.mp there
      obtain rfl : (r.abort t.outlet x).1 = q := by simpa [abortRunner, own, inside] using found
      unfold Runner.abort
      split
      · rfl
      · next idle => simpa using idle
    · have other : t.runners[i]? = some q := by
        simpa [abortRunner, List.getElem?_set_ne (Ne.symm own)] using found
      exact before i (by omega) q other

/-- A runner that has stopped does so for good. -/
theorem Fate.ended {id : Nat} {r r' : Runner} (fate : Fate s e m s' e' id r r')
    (ended : r.isRunning = false) : r'.isRunning = false := by
  -- A runner that has ended takes no step, and it is not stopped again.
  cases fate with
  | stepped _ steps _ =>
    rw [steps.running] at ended
    cases ended
  | kept _ same _ =>
    rw [← ended, Runner.isRunning, Runner.isRunning, Runner.phase_of_core same]
  | stopped _ _ same _ =>
    rw [same]
    rfl

/-- A move that ends the event loop leaves no runner running. -/
theorem Moves.ends (numbered : s.Numbered) (moved : s.Moves e m s' e')
    (goes : s.loopFinished = false) (halted : s'.loopFinished = true) :
    ∀ r ∈ s'.runners, r.isRunning = false := by
  -- No other move touches the event loop.
  have other {P : Prop} (same : s'.loop = s.loop) : P := by
    rw [loopFinished, same, ← loopFinished, goes] at halted
    cases halted
  cases moved with
  | looped steps =>
    cases steps with
    | @dispatched request rest selects _ _ _ =>
      have acts :=
        dispatch_dispatches { s with receiver := { s.receiver with queue := rest } } request
      generalize dispatch _ request = s' at acts halted
      cases acts with
      | ignored _ => simp [loopFinished, selects] at halted
      | acknowledged _ _ _ => cases halted
    | reaped selects _ _ _ _ _ =>
      rw [loopFinished, show (s.reap _).loop = s.loop from rfl, selects] at halted
      cases halted
    | @answered _ _ _ _ _ start _ _ => cases start <;> cases halted
    | drained _ stopped => exact stopped
    | aborted _ _ => exact abortRunners_stopped numbered e
    | _ => cases halted
  | closed steps => cases steps <;> exact other rfl
  | _ => exact other rfl

/-- Once the event loop is over, no runner runs. -/
theorem Run.stopped (begins : Begins s₀) (run : Run s₀ e₀ past s e)
    (halted : s.loopFinished = true) :
    ∀ r ∈ s.runners, r.isRunning = false := by
  refine run.keeps_along
    (P := fun _ t _ => t.loopFinished = true → ∀ r ∈ t.runners, r.isRunning = false)
    (fun _ r member => ?_) ?_ halted
  · simp [begins.runners] at member
  · intro past t t' x x' m run moved held halted r' member
    have numbered := (run.sound begins).numbered
    cases before : t.loopFinished with
    | false => exact (move_moves moved).ends numbered before halted r' member
    | true =>
      -- No runner is started any more, and who has stopped stays so.
      obtain ⟨id, found⟩ := List.getElem?_of_mem member
      rcases run.accounts begins moved id r' found with ⟨missing, -, -⟩ | ⟨r, there, fate⟩
      · obtain ⟨_, _, _, _, _, _, _, -, answers, -⟩ :=
          (move_moves moved).started numbered missing found
        simp [loopFinished, answers] at before
      · exact fate.ended (held before r (List.mem_of_getElem? there))

/-! ### Loops behind the begin of the closing -/

/-- No step of the event loop touches keep-alive. -/
theorem LoopSteps.keepAlive (numbered : s.Numbered) (moved : s.LoopSteps e s' e') :
    s'.keepAlive = s.keepAlive := by
  -- The loop has nothing to do with keep-alive, whatever step it takes.
  cases moved with
  | told _ _ => exact (leave_work s s.alarms .away e.now).keepAlive
  | failed _ _ _ => exact (leave_work s _ _ e.now).keepAlive
  | @dispatched request rest _ _ _ _ =>
    have acts :=
      dispatch_dispatches { s with receiver := { s.receiver with queue := rest } } request
    exact acts.keeps Session.keepAlive (fun t kind => (t.release_work kind).keepAlive) fun _ _ _ =>
      rfl
  | ended _ _ _ _ _ => exact (leave_work s s.alarms s.closeCode e.now).keepAlive
  | @answered _ _ _ _ _ start _ _ => cases start <;> rfl
  | aborted _ _ =>
    exact abortRunners_keeps (P := fun t _ => t.keepAlive = s.keepAlive) numbered rfl
      fun _ held => held
  | _ => rfl

/-- Keep-alive that is over stays so. -/
theorem Moves.keepAlive_ended (numbered : s.Numbered) (moved : s.Moves e m s' e')
    (ended : s.keepAlive.isRunning = false) : s'.keepAlive.isRunning = false := by
  -- Only keep-alive itself and a teardown that gives up touch it, and neither starts it again.
  cases moved with
  | keptAlive steps => cases steps <;> simp_all [KeepAlive.isRunning]
  | looped steps => rw [steps.keepAlive numbered, ended]
  | closed steps =>
    cases steps with
    | aborted _ _ =>
      show (s.keepAlive.abort s.outlet).1.isRunning = false
      simp [KeepAlive.abort, ended]
    | _ => exact ended
  | _ => exact ended

/-- Loops that are stopped from outside are over. -/
theorem abortLoops_ended (s : Session) :
    s.abortLoops.receiver.isRunning = false ∧ s.abortLoops.keepAlive.isRunning = false := by
  -- Each of the two is stopped, unless it has ended before.
  refine ⟨?_, ?_⟩
  · show s.receiver.abort.isRunning = false
    unfold Receiver.abort
    split
    · rfl
    · next ended => simpa using ended
  · show (s.keepAlive.abort s.outlet).1.isRunning = false
    unfold KeepAlive.abort
    split
    · rfl
    · next ended => simpa using ended

/-- A call that goes on from waiting for the loops leaves none of them that it can stop running. -/
theorem TeardownSteps.stops {call deadline : Nat} (moved : s.TeardownSteps e call s' e')
    (waits : s.teardown? call = some (.waiting deadline)) :
    s'.receiver.isRunning = false ∧ s'.keepAlive.isRunning = false ∧
      (s.loopFinished = true ∨ deadline ≤ e.now) := by
  -- A call that waits goes on when the two have ended, or stops them at its deadline.
  cases moved with
  | begun _ halted =>
    simp only [loopsOver, Bool.and_eq_true, Bool.not_eq_true'] at halted
    exact ⟨halted.1.2, halted.2, .inl halted.1.1⟩
  | aborted waits' late =>
    obtain ⟨receiver, keepAlive⟩ := s.abortLoops_ended
    obtain rfl : _ = deadline := by simpa [waits] using waits'.symm
    exact ⟨receiver, keepAlive, .inr late⟩
  | wrote closing _ | closed closing _ | watched closing _ =>
    rw [waits] at closing
    cases closing

/-- A session that is closed after a move was closed before, or somebody was closing its
connection. -/
theorem Moves.closed_before (numbered : s.Numbered) (moved : s.Moves e m s' e')
    (closed : s'.state = .closed) : s.BeginsToClose := by
  -- A session that is told to close is not closed by that.
  have state (told : s.state.advance .closing = .closed) : s.state = .closed := by
    cases before : s.state <;> simp_all [SessionState.advance, SessionState.next?]
  cases moved with
  | looped steps =>
    rcases (steps.ongoing numbered).state with same | ⟨next, -⟩
    · exact .inl (same.symm.trans closed)
    · exact .inl (state (next.symm.trans closed))
  | closed steps =>
    cases steps with
    | closed closing _ => exact .inr ⟨_, _, _, closing⟩
    | _ => exact .inl closed
  | called _ => exact .inl (state closed)
  | _ => exact .inl closed

/-- From the begin of the closing on, receiving and keep-alive are over, and the event loop is over
or was given up by the call that closes. -/
theorem Run.closing (begins : Begins s₀) (run : Run s₀ e₀ past s e)
    (closes : s.BeginsToClose) :
    s.receiver.isRunning = false ∧ s.keepAlive.isRunning = false ∧
      (s.loopFinished = true ∨ ∃ o ∈ past, ∃ call, o.GivesUp call) := by
  -- What has ended does not begin again, so all of this is only to be seen when the closing begins.
  refine run.keeps_along
    (P := fun past t _ => t.BeginsToClose → t.receiver.isRunning = false ∧
      t.keepAlive.isRunning = false ∧
      (t.loopFinished = true ∨ ∃ o ∈ past, ∃ call, o.GivesUp call)) ?_ ?_ closes
  · -- Nobody has called for the end of a session that begins.
    rintro (closed | ⟨call, code, stage, closing⟩)
    · cases begins <;> cases closed
    · cases begins <;> cases closing
  · intro past t t' x x' m run moved held closes
    have numbered := (run.sound begins).numbered
    have moves := move_moves moved
    have finished (halted : t.loopFinished = true) : t'.loopFinished = true := by
      cases goes : t'.loopFinished with
      | true => rfl
      | false =>
        rw [(moves.open_ goes).1] at halted
        cases halted
    have kept (before : t.BeginsToClose) : t'.receiver.isRunning = false ∧
        t'.keepAlive.isRunning = false ∧
        (t'.loopFinished = true ∨
          ∃ o ∈ past ++ [⟨t, x, m⟩], ∃ call, o.GivesUp call) := by
      obtain ⟨receiver, keepAlive, halted⟩ := held before
      exact ⟨((moves.receiver numbered).ended receiver).2,
        moves.keepAlive_ended numbered keepAlive, halted.imp finished fun ⟨o, member, gaveUp⟩ =>
        ⟨o, List.mem_append_left _ member, gaveUp⟩⟩
    rcases closes with closed | ⟨call, code, stage, closing⟩
    · exact kept (moves.closed_before numbered closed)
    · cases moves.call numbered closing with
      | stayed same => exact kept (.inr ⟨_, _, _, same⟩)
      | wrote _ before => exact kept (.inr ⟨_, _, _, before⟩)
      | @begun deadline own waits _ =>
        -- Who begins to close has waited for the loops, or gives the event loop up.
        subst own
        cases moves with
        | closed steps =>
          obtain ⟨receiver, keepAlive, halted⟩ := steps.stops waits
          refine ⟨receiver, keepAlive, ?_⟩
          cases goes : t.loopFinished with
          | true => exact .inl (finished goes)
          | false =>
            have late := halted.resolve_left (by simp [goes])
            exact .inr ⟨_, List.mem_append_right _ (List.mem_singleton_self _), call,
              ⟨rfl, ⟨deadline, waits, late⟩, goes⟩⟩

/-! ### What is left in a closed session -/

/-- Who writes without a write half has still to find that it is gone. -/
theorem Sound.queued_of_gone (sound : s.Sound) (gone : s.outlet.writable = false) {w : Writer}
    {frame : OutFrame} {stage : WriteStage} (own : s.errand w = some (.write frame stage)) :
    stage = .queued := by
  -- A write that has begun has a write half.
  have writing (begun : Errand.isWriting (s.errand w) = true) : stage = .queued := by
    have there : s.outlet.writable = true := (sound.orderly.writing w begun).2
    rw [gone] at there
    cases there
  cases stage with
  | queued => rfl
  | _ => exact writing (by rw [own]; rfl)

/-- The first in line finds that the write half is gone. -/
theorem stepWrite_of_gone (frame : OutFrame) (now : Nat) {w : Writer}
    (turn : s.outlet.hasTurn w = true) (gone : s.outlet.writable = false) :
    s.outlet.stepWrite now w frame .queued = some (s.outlet.leave w, .done false none) := by
  simp [Outlet.stepWrite, turn, gone]

/-- Where nobody stands in line, nobody writes. -/
theorem Sound.unwritten (sound : s.Sound) (free : s.outlet.line = []) (w : Writer)
    (frame : OutFrame)
    (stage : WriteStage) : s.errand w ≠ some (.write frame stage) := by
  -- A writer with a frame to write is in line, and nobody is.
  intro own
  have waits : Errand.isInLine (s.errand w) = true := by
    rw [own]
    rfl
  have inLine : w ∈ s.outlet.line := (sound.orderly.inLine w).mpr waits
  rw [free] at inLine
  cases inLine

/-- A runner that is left in a closed session and does not write ends, because it is told to
stop. -/
theorem Sound.runner_step (sound : s.Sound) (halted : s.IsOver) (free : s.outlet.line = [])
    {id : Nat} {r : Runner} (found : s.runners[id]? = some r) (runs : r.isRunning = true)
    (e : Surroundings) : (s.move e (.task (.runner id))).isSome = true := by
  -- A runner that waits is told to end. One that forwards would be in line.
  cases phase : r.phase with
  | spawned | opening | streaming _ =>
    simp [move, step, found, Runner.step, phase, halted.cancelled]
  | forwarding w m stage =>
    have own : s.errand (.runner id) = some (.write (.message m) stage) := by
      simp [errand, found, Runner.errand?, phase]
    exact absurd own (sound.unwritten free _ _ _)
  | _ => simp [Runner.isRunning, phase] at runs

/-- An event loop that is left in a closed session without runners and does not write waits for
nobody. -/
theorem Sound.loop_step (sound : s.Sound) (halted : s.IsOver) (free : s.outlet.line = [])
    (attended : s.loop ≠ .idle) (goes : s.loopFinished = false)
    (stopped : ∀ r ∈ s.runners, r.isRunning = false) (e : Surroundings) :
    (s.move e (.task .eventLoop)).isSome = true := by
  -- A loop that selects is told to end, and one that drains finds all runners stopped.
  cases loop : s.loop with
  | idle => exact absurd loop attended
  | selecting => simp [move, step, stepLoop, loop, halted.cancelled]
  | acknowledging m stage start =>
    exact absurd (errand_acknowledging loop) (sound.unwritten free _ _ _)
  | draining deadline =>
    have all : (s.runners.all fun r => !r.isRunning) = true := by simpa using stopped
    simp [move, step, stepLoop, loop, all]
  | finished _ | discarded => simp [loopFinished, loop] at goes

/-- As long as its event loop or a runner is left in a closed session, one of them has a next
step. -/
theorem Settled.inner_step (settled : s.Settled) (sound : s.Sound) (closed : s.state = .closed)
    (receiver : s.receiver.isRunning = false) (keepAlive : s.keepAlive.isRunning = false)
    (attended : s.loop ≠ .idle) (left : ¬ s.HasStopped) (e : Surroundings) :
    s.HasNextStep e := by
  have halted := settled.isOver closed
  cases line : s.outlet.line with
  | nil =>
    by_cases stopped : ∀ r ∈ s.runners, r.isRunning = false
    · -- Only the event loop is left.
      have goes : s.loopFinished = false := Bool.eq_false_iff.mpr fun ended =>
        left ⟨by simp [loopsOver, ended, receiver, keepAlive], stopped⟩
      exact ⟨.eventLoop, rfl, sound.loop_step halted line attended goes stopped e⟩
    · simp only [not_forall, Bool.not_eq_false] at stopped
      obtain ⟨r, member, runs⟩ := stopped
      obtain ⟨id, found⟩ := List.getElem?_of_mem member
      exact ⟨.runner id, rfl, sound.runner_step halted line found runs e⟩
  | cons w rest =>
    -- The first in line finds the write half gone; it is the event loop or a runner.
    have turn : s.outlet.hasTurn w = true := by simp [Outlet.hasTurn, line]
    have inLine : Errand.isInLine (s.errand w) = true :=
      (sound.orderly.inLine w).mp (by simp [writeSide, line])
    cases w with
    | eventLoop =>
      refine ⟨.eventLoop, rfl, ?_⟩
      cases loop : s.loop with
      | acknowledging m stage start =>
        obtain rfl := sound.queued_of_gone halted.gone (errand_acknowledging loop)
        have refused := stepWrite_of_gone (.message m) e.now turn halted.gone
        simp only [move, step, stepLoop, loop, refused]
        split <;> rfl
      | _ => simp [errand, loop, LoopPhase.errand?, Errand.isInLine] at inLine
    | keepAlive =>
      -- Keep-alive is over.
      cases phase : s.keepAlive.phase <;>
        simp_all [errand, KeepAlive.errand?, KeepAlive.isRunning, Errand.isInLine]
    | runner id =>
      refine ⟨.runner id, rfl, ?_⟩
      cases found : s.runners[id]? with
      | none => simp [errand, found, Errand.isInLine] at inLine
      | some r =>
        cases phase : r.phase with
        | forwarding watch m stage =>
          have own : s.errand (.runner id) = some (.write (.message m) stage) := by
            simp [errand, found, Runner.errand?, phase]
          obtain rfl := sound.queued_of_gone halted.gone own
          have refused := stepWrite_of_gone (.message m) e.now turn halted.gone
          rw [← sound.numbered id r found] at refused
          simp [move, step, found, Runner.step, phase, refused]
        | _ => simp [errand, found, Runner.errand?, phase, Errand.isInLine] at inLine
    | call call =>
      -- No call closes the connection any more.
      have idle := (settled.finished closed).2.2 call
      cases there : s.teardown? call with
      | none => simp [errand, there, Errand.isInLine] at inLine
      | some phase =>
        cases phase <;>
          simp_all [errand, works, TeardownPhase.errand?, TeardownPhase.isWork, Errand.isInLine]

/-- A write that waits without a write half does not go on, and cannot succeed. -/
theorem Sound.refused_of_gone (sound : s.Sound) (gone : s.outlet.writable = false) {w : Writer}
    {frame : OutFrame} {stage : WriteStage} {o' : Outlet} {result : StepResult WriteStage}
    {now : Nat}
    (own : s.errand w = some (.write frame stage))
    (writes : s.outlet.stepWrite now w frame stage = some (o', result)) :
    result = .done false none := by
  -- Without the write half a write is in its first stage still, where it is refused.
  obtain rfl := sound.queued_of_gone gone own
  cases Outlet.stepWrite_writes writes with
  | turn _ there =>
    rw [gone] at there
    cases there
  | refused _ _ => rfl
  | failed begun _ => exact absurd rfl begun

/-- A step of the event loop of a closed session brings it closer to its end. -/
theorem LoopSteps.stepsLeft (sound : s.Sound) (halted : s.IsOver) (moved : s.LoopSteps e s' e') :
    s'.stepsLeft < s.stepsLeft := by
  -- The session was told to end, so the loop leaves as soon as it selects.
  have told {P : Prop} (untold : s.cancelled = false) : P := by
    rw [halted.cancelled] at untold
    cases untold
  cases moved with
  | told selects _ =>
    have same := countP_of_core (p := Runner.isRunning) (fun _ => rfl)
      (leave_work s s.alarms .away e.now).runners
    rw [Session.stepsLeft, Session.stepsLeft, same, selects]
    exact Nat.add_lt_add_right Nat.one_lt_two _
  | failed _ untold _ => exact told untold
  | dispatched _ untold _ _ => exact told untold
  | ended _ untold _ _ _ => exact told untold
  | reaped _ untold _ _ _ _ => exact told untold
  | wrote answers writes =>
    cases sound.refused_of_gone halted.gone (errand_acknowledging answers) writes
  | @answered _ _ _ _ _ start answers _ =>
    -- A runner that is due is started and has a step to take, for which the bound leaves room.
    cases start with
    | none => simp [Session.stepsLeft, acknowledged, answers, LoopPhase.stepsLeft]
    | some due =>
      simp [Session.stepsLeft, acknowledged, spawn, answers, LoopPhase.stepsLeft, Runner.new,
        Runner.isRunning]
      omega
  | drained drains _ => simp [Session.stepsLeft, endLoop, drains, LoopPhase.stepsLeft]
  | aborted drains _ =>
    have none : (s.abortRunners e).1.runners.countP Runner.isRunning = 0 :=
      List.countP_eq_zero.mpr fun r
        member => by simp [abortRunners_stopped sound.numbered e r member]
    rw [Session.stepsLeft, Session.stepsLeft, drains]
    refine Nat.lt_of_lt_of_le ?_ (Nat.le_add_right _ _)
    show 0 + (s.abortRunners e).1.runners.countP Runner.isRunning < 1
    rw [none]
    exact Nat.one_pos

/-- A runner of a closed session ends with its next step. -/
theorem runner_ends (sound : s.Sound) (halted : s.IsOver) {id : Nat} {r r' : Runner} {o' : Outlet}
    {f : Option SessionFailure} (found : s.runners[id]? = some r)
    (steps : r.Steps s.outlet e s.credentials (r.cancelled || s.cancelled) (r', o', e', f)) :
    r'.isRunning = false := by
  have told {P : Prop} (untold : (r.cancelled || s.cancelled) = false) : P := by
    rw [halted.cancelled, Bool.or_true] at untold
    cases untold
  -- A report that is still to be written is refused.
  have refused {w : Nat} {m : Message} {stage : WriteStage} {o' : Outlet}
      {result : StepResult WriteStage} (forwards : r.phase = .forwarding w m stage)
      (writes : s.outlet.stepWrite e.now (.runner r.id) (.message m) stage = some (o', result)) :
      result = .done false none := by
    rw [sound.numbered id r found] at writes
    exact sound.refused_of_gone halted.gone (w := .runner id)
      (by simp [errand, found, Runner.errand?, forwards]) writes
  generalize whole : (r', o', e', f) = change at steps
  cases steps with
  | toldFirst _ _ => cases whole; rfl
  | opened _ untold => exact told untold
  | told _ _ => cases whole; rfl
  | consumed _ untold _ => exact told untold
  | wrote forwards writes => cases refused forwards writes
  | forwarded forwards writes => cases refused forwards writes
  | failed _ _ => cases whole; rfl

/-- Every step of the event loop or of a runner brings a closed session closer to its end. -/
theorem Moves.stepsLeft (sound : s.Sound) (halted : s.IsOver) {task : Task}
    (inner : task.isInner = true) (moved : s.Moves e (.task task) s' e') :
    s'.stepsLeft < s.stepsLeft := by
  cases moved with
  | looped steps => exact steps.stepsLeft sound halted
  | @ran id r r' _ _ _ found steps =>
    obtain ⟨inside, place⟩ := List.getElem?_eq_some_iff.mp found
    have runs := steps.running
    have ends := runner_ends sound halted found steps
    -- One runner less runs.
    have among : 0 < s.runners.countP Runner.isRunning :=
      List.countP_pos_iff.mpr ⟨r, List.mem_of_getElem? found, runs⟩
    have fewer : (s.runners.set id r').countP Runner.isRunning =
        s.runners.countP Runner.isRunning - 1 := by
      rw [List.countP_set inside, place, runs, ends, if_pos rfl, if_neg Bool.false_ne_true,
        Nat.add_zero]
    refine Nat.add_lt_add_left ?_ s.loop.stepsLeft
    show (s.runners.set id r').countP Runner.isRunning < _
    rw [fewer]
    exact Nat.sub_one_lt_of_lt among
  | _ => cases inner

/-- An event loop that somebody runs is never one that nobody runs. -/
theorem Moves.attended (moved : s.Moves e m s' e') (attended : s.loop ≠ .idle) :
    s'.loop ≠ .idle := by
  -- Only a loop that nobody attends stays idle, and no step leads back there.
  cases moved with
  | looped steps =>
    cases steps with
    | @dispatched request rest selects _ _ _ =>
      have acts :=
        dispatch_dispatches { s with receiver := { s.receiver with queue := rest } } request
      generalize dispatch _ request = s' at acts
      cases acts with
      | ignored _ => exact attended
      | acknowledged _ _ _ => simp [acknowledge]
    | reaped _ _ _ _ _ _ => exact attended
    | @answered _ _ _ _ _ start _ _ => cases start <;> simp [acknowledged, spawn]
    | _ => simp [leave, endLoop]
  | closed steps => cases steps <;> exact attended
  | _ => exact attended

/-- The event loop and the runners of a closed session take no more steps than it has left. -/
theorem Run.inner_length (begins : Begins s₀) (run : Run s₀ e₀ past s e)
    (closed : s.state = .closed)
    (attended : s.loop ≠ .idle) {more : List Occasion} (later : Run s e more s' e')
    (inner : ∀ o ∈ more, o.IsInner) :
    s'.stepsLeft + more.length ≤ s.stepsLeft ∧ s'.loop ≠ .idle := by
  refine later.keeps_along
    (P := fun more t _ => (∀ o ∈ more, o.IsInner) →
      t.stepsLeft + more.length ≤ s.stepsLeft ∧ t.loop ≠ .idle)
    (fun _ => ⟨Nat.le_refl _, attended⟩) ?_ inner
  intro more t t' x x' m between moved held inner
  -- Each move is a step of the event loop or of a runner, and so is the last one.
  obtain ⟨before, last⟩ := List.forall_mem_append.mp inner
  obtain ⟨task, own, kind⟩ := last _ (List.mem_singleton_self _)
  have own : m = .task task := own
  subst own
  obtain ⟨bound, attended⟩ := held before
  -- In between the session stays closed, so each step is one less.
  obtain ⟨sound, settled⟩ := (run.append between).settled begins
  have halted := settled.isOver (run.closed_stays begins closed between)
  have moves := move_moves moved
  have less := moves.stepsLeft sound halted kind
  refine ⟨?_, moves.attended attended⟩
  rw [List.length_append, List.length_singleton]
  omega

/-- In a closed session receiving and keep-alive are over.

So are the event loop and every runner, unless the call had given up waiting for the event loop.

If somebody runs that loop, what is left then ends by itself.
The event loop and the runners have only so many steps left, in whatever order they take them.
One of them has a next step until all of them have stopped. -/
theorem closed_has_stopped (begins : Begins s₀) (run : Run s₀ e₀ past s e)
    (closed : s.state = .closed) :
    s.receiver.isRunning = false ∧ s.keepAlive.isRunning = false ∧
    (s.HasStopped ∨ s.loopFinished = false ∧ ∃ o ∈ past, ∃ call, o.GivesUp call) ∧
    (s.loop ≠ .idle → ∀ more s' e', Run s e more s' e' → (∀ o ∈ more, o.IsInner) →
      more.length ≤ s.stepsLeft ∧ (s'.HasStopped ∨ s'.HasNextStep e')) := by
  obtain ⟨receiver, keepAlive, halted⟩ := run.closing begins (.inl closed)
  refine ⟨receiver, keepAlive, ?_, fun attended more s' e' later inner => ?_⟩
  · cases goes : s.loopFinished with
    | true =>
      exact .inl ⟨by simp [loopsOver, goes, receiver, keepAlive], run.stopped begins goes⟩
    | false => exact .inr ⟨rfl, halted.resolve_left (by simp [goes])⟩
  · obtain ⟨bound, attended⟩ := run.inner_length begins closed attended later inner
    refine ⟨by omega, ?_⟩
    -- Later on, everything said of the closed session holds as well.
    have whole := run.append later
    have closed' := run.closed_stays begins closed later
    obtain ⟨receiver', keepAlive', -⟩ := whole.closing begins (.inl closed')
    obtain ⟨sound, settled⟩ := whole.settled begins
    by_cases stopped : s'.HasStopped
    · exact .inl stopped
    · exact .inr (settled.inner_step sound closed' receiver' keepAlive' attended stopped e')

/-- A session with short timeouts on a transport that stalls. -/
def stalled : Session :=
  .start { teardownTimeout := 1000, writeTimeout := 2000 } default ⟨.stall, .ready⟩ 0 false

/-- The surroundings of a session with an empty catalog, at some time. -/
def around (now : Nat) : Surroundings :=
  { Surroundings.start (.of (.catalog (Hub.empty 4 false))) with now }

/-- A client subscribes, and while its acknowledgment stalls the session is torn down: the call
gives up waiting for the event loop and closes the connection as soon as the acknowledgment has
failed. -/
def tornDownMeanwhile : List Move :=
  [.arrive (.text "\x7b\"op\":\"subscribe\",\"kind\":\"Artifact\"\x7d"), .task .receiver,
    .task .receiver, .task .eventLoop, .task .eventLoop, .teardown 0, .outside (around 1000),
    .task (.teardown 0), .outside (around 2000), .task .eventLoop, .task (.teardown 0)]

/-- What is left of a session that is torn down while it acknowledges takes three steps to stop. -/
theorem closed_has_stopped_late :
    ∃ past s e more s' e', Run stalled (around 0) past s e ∧ s.state = .closed ∧
      Run s e more s' e' ∧ more.length = 3 ∧ more.length ≤ s.stepsLeft ∧ s'.HasStopped ∧
      ∃ o ∈ past, ∃ call, o.GivesUp call := by
  -- The started runner finds itself told, then the loop leaves and finds it gone.
  let rest : List Move := [.task (.runner 0), .task .eventLoop, .task .eventLoop]
  have plays : ((play stalled (around 0) tornDownMeanwhile).any fun p =>
      decide (p.2.1.state = .closed ∧ p.2.1.loop = .selecting) &&
        (play p.2.1 p.2.2 rest).any fun q => decide (q.2.1.loop = .finished 2000)) = true := by
    decide +kernel
  obtain ⟨⟨past, s, e⟩, played, checked⟩ := (Option.any_eq_true _ _).mp plays
  obtain ⟨now, later⟩ := Bool.and_eq_true_iff.mp checked
  obtain ⟨⟨more, s', e'⟩, played', ended⟩ := (Option.any_eq_true _ _).mp later
  obtain ⟨closed, selects⟩ : s.state = .closed ∧ s.loop = .selecting := of_decide_eq_true now
  have ended : s'.loop = .finished 2000 := of_decide_eq_true ended
  have run := Run.of_play played
  have run' := Run.of_play played'
  have moves : more.map Occasion.move = rest := Run.moves_of_play played'
  have inner : ∀ o ∈ more, o.IsInner := by
    intro o member
    have among : o.move ∈ rest := moves ▸ List.mem_map_of_mem member
    rcases (by simpa [rest] using among : o.move = .task (.runner 0) ∨ o.move = .task .eventLoop)
      with own | own <;> exact ⟨_, own, rfl⟩
  have length : more.length = 3 := by simpa [rest] using congrArg List.length moves
  -- The loop still runs when the session is closed, and is over three steps later.
  obtain ⟨-, -, first, later⟩ := closed_has_stopped (.attended _ _ _ _ _) run closed
  obtain ⟨-, -, last, -⟩ := closed_has_stopped (.attended _ _ _ _ _) (run.append run')
    (run.closed_stays (.attended _ _ _ _ _) closed run')
  refine ⟨past, s, e, more, s', e', run, closed, run', length,
    (later (by simp [selects]) more s' e' run' inner).1, last.resolve_right ?_,
    (first.resolve_left ?_).2⟩
  · rintro ⟨goes, -⟩
    simp [loopFinished, ended] at goes
  · rintro ⟨halted, -⟩
    simp [loopsOver, loopFinished, selects] at halted

/-- A session that is closed while its event loop and a runner go on. -/
theorem closed_before_stopped :
    ∃ past s e, Run stalled (around 0) past s e ∧ s.state = .closed ∧ s.loop = .selecting ∧
      ∃ r ∈ s.runners, r.isRunning = true := by
  -- The run is played: the call gives up on the loop, and the loop still selects afterwards.
  have plays : ((play stalled (around 0) tornDownMeanwhile).any fun p =>
      decide (p.2.1.state = .closed ∧ p.2.1.loop = .selecting) &&
        p.2.1.runners.any Runner.isRunning) = true := by
    decide +kernel
  obtain ⟨⟨past, s, e⟩, played, checked⟩ := (Option.any_eq_true _ _).mp plays
  obtain ⟨now, runs⟩ := Bool.and_eq_true_iff.mp checked
  obtain ⟨closed, selects⟩ := of_decide_eq_true now
  exact ⟨past, s, e, Run.of_play played, closed, selects, List.any_eq_true.mp runs⟩

end Session

end WatchRelay
