import WatchRelay.Proofs.Lookup
import WatchRelay.Proofs.Session.Run
import WatchRelay.Proofs.Session.Steps
import WatchRelay.Proofs.Wire.Control

/-! Who writes on the connection of a session, and that all its moves are steps of the write
side. -/

namespace WatchRelay

/-- What keep-alive is about on the write side. -/
def KeepAlive.errand? (k : KeepAlive) : Option Errand :=
  match k.phase with
  | .pinging _ stage => some (.write .ping stage)
  | .waiting _ | .finished _ | .aborted => none

/-- What is reported of an event is a notification. -/
theorem Event.isNotification_of_report {kind : ResourceKind} {event : Event} {m : Message}
    (reports : event.notification? kind = some m) : m.op.isNotification = true := by
  obtain ⟨op, same, rfl⟩ := Option.map_eq_some_iff.mp reports
  cases change : event.change <;> simp_all [Change.operation?] <;> subst same <;> rfl

/-- What is due to a request is an acknowledgment. -/
theorem Request.isAcknowledgment_of_due {request : Request} {m : Message}
    (due : request.acknowledgment? = some m) : m.op.isAcknowledgment = true := by
  cases request <;> cases due <;> rfl

/-- What a runner is about on the write side. -/
def Runner.errand? (r : Runner) : Option Errand :=
  match r.phase with
  | .forwarding _ m stage => some (.write (.message m) stage)
  | .spawned | .opening | .streaming _ | .finished _ | .crashed | .aborted => none

/-- What the event loop is about on the write side. -/
def LoopPhase.errand? : LoopPhase → Option Errand
  | .acknowledging m stage _ => some (.write (.message m) stage)
  | .idle | .selecting | .draining _ | .finished _ | .discarded => none

/-- What a call that tears the session down is about on the write side. -/
def TeardownPhase.errand? : TeardownPhase → Option Errand
  | .closing code stage => some (.close (some ⟨code.number, code.reason⟩) stage)
  | .waiting _ | .watching _ | .finished => none

/-- Keep-alive does not close the connection. -/
theorem KeepAlive.errand?_ne_close (k : KeepAlive) (frame : Option CloseFrame)
    (stage : CloseStage) :
    k.errand? ≠ some (.close frame stage) := by
  unfold errand?
  split <;> simp

/-- A runner does not close the connection. -/
theorem Runner.errand?_ne_close (r : Runner) (frame : Option CloseFrame) (stage : CloseStage) :
    r.errand? ≠ some (.close frame stage) := by
  unfold errand?
  split <;> simp

/-- The event loop does not close the connection. -/
theorem LoopPhase.errand?_ne_close (phase : LoopPhase) (frame : Option CloseFrame)
    (stage : CloseStage) : phase.errand? ≠ some (.close frame stage) := by
  unfold errand?
  split <;> simp

/-- A runner without what its session notes about it. -/
def Runner.core (r : Runner) : Runner := { r with cancelled := false, joined := false }

/-- Whatever is noted about a runner, it does what it did. -/
theorem Runner.phase_of_core {r r' : Runner} (same : r'.core = r.core) : r'.phase = r.phase := by
  show r'.core.phase = r.core.phase
  rw [same]

namespace Session

/-- What each writer is about. -/
def errand (s : Session) : Writer → Option Errand
  | .eventLoop => s.loop.errand?
  | .keepAlive => s.keepAlive.errand?
  | .runner id => s.runners[id]?.bind Runner.errand?
  | .call call => (s.teardown? call).bind TeardownPhase.errand?

/-- The write side of a session. -/
def writeSide (s : Session) : WriteSide := ⟨s.outlet, s.errand⟩

/-- An event loop that acknowledges is about its acknowledgment. -/
theorem errand_acknowledging {s : Session} {m : Message} {stage : WriteStage}
    {start : Option (ResourceKind × String)} (answers : s.loop = .acknowledging m stage start) :
    s.errand .eventLoop = some (.write (.message m) stage) := by
  rw [errand, answers, LoopPhase.errand?]

/-- A call that closes the connection is about its close frame. -/
theorem errand_closing {s : Session} {call : Nat} {code : CloseCode} {stage : CloseStage}
    (closing : s.teardown? call = some (.closing code stage)) :
    s.errand (.call call) = some (.close (some ⟨code.number, code.reason⟩) stage) := by
  rw [errand, closing, Option.bind_some, TeardownPhase.errand?]

/-- Only calls that tear the session down close its connection. -/
theorem teardown?_of_close {s : Session} {w : Writer} {frame : Option CloseFrame}
    {stage : CloseStage} (closing : s.errand w = some (.close frame stage)) :
    ∃ call code, w = .call call ∧ s.teardown? call = some (.closing code stage) := by
  -- All others only write, whatever they are about.
  cases w with
  | eventLoop => exact absurd closing (s.loop.errand?_ne_close frame stage)
  | keepAlive => exact absurd closing (s.keepAlive.errand?_ne_close frame stage)
  | runner id =>
    obtain ⟨r, -, own⟩ := Option.bind_eq_some_iff.mp closing
    exact absurd own (r.errand?_ne_close frame stage)
  | call call =>
    obtain ⟨phase, there, own⟩ := Option.bind_eq_some_iff.mp closing
    cases phase with
    | closing code stage => cases own; exact ⟨call, code, rfl, there⟩
    | _ => cases own

/-- The number of a runner is its place. -/
def Numbered (s : Session) : Prop :=
  ∀ (id : Nat) (r : Runner), s.runners[id]? = some r → r.id = id

/-! ### Runners that are told to stop or taken note of -/

theorem map_core_modify (runners : List Runner) (id : Nat) (f : Runner → Runner)
    (same : ∀ r, (f r).core = r.core) :
    (runners.modify id f).map Runner.core = runners.map Runner.core := by
  apply List.ext_getElem?
  intro i
  -- Only the runner in that place is changed, and only in what is noted about it.
  by_cases place : id = i
  · subst place
    cases found : runners[id]? <;> simp [found, same]
  · simp [place]

/-- What a session notes about its runners is nothing to a count of them by what they do. -/
theorem countP_of_core {p : Runner → Bool} (blind : ∀ r : Runner, p r.core = p r)
    {runners runners' : List Runner}
    (same : runners'.map Runner.core = runners.map Runner.core) :
    runners'.countP p = runners.countP p := by
  -- The test reads nothing but the core, so counting cores is counting runners.
  have core (l : List Runner) : (l.map Runner.core).countP p = l.countP p := by
    rw [List.countP_map]
    exact List.countP_congr fun r _ => by simp [blind]
  rw [← core, same, core]

/-- What the others are about depends on the work of the runners alone. -/
theorem errand_runner_congr {s s' : Session}
    (same : s'.runners.map Runner.core = s.runners.map Runner.core) (id : Nat) :
    s'.errand (.runner id) = s.errand (.runner id) := by
  -- What a runner has to write is part of its core.
  have core (l : List Runner) : (l.map Runner.core)[id]?.bind Runner.errand? =
      l[id]?.bind Runner.errand? := by
    rw [List.getElem?_map, Option.bind_map]
    rfl
  rw [errand, errand, ← core, same, core]

theorem Numbered.congr {s s' : Session} (numbered : s.Numbered)
    (same : s'.runners.map Runner.core = s.runners.map Runner.core) : s'.Numbered := by
  intro id r found
  have place := congrArg (fun l => l[id]?) same
  simp only [List.getElem?_map, found, Option.map_some] at place
  -- The runner in that place before has the same number.
  cases before : s.runners[id]? with
  | none => simp [before] at place
  | some q =>
    have number := congrArg Runner.id (Option.some.inj (place.trans (by rw [before]; rfl)))
    exact number.trans (numbered id q before)

/-- The parts of a session that telling its runners to stop leaves alone. -/
structure SameWork (s s' : Session) : Prop where
  runners : s'.runners.map Runner.core = s.runners.map Runner.core
  outlet : s'.outlet = s.outlet
  keepAlive : s'.keepAlive = s.keepAlive
  receiver : s'.receiver = s.receiver
  teardowns : s'.teardowns = s.teardowns
  config : s'.config = s.config
  credentials : s'.credentials = s.credentials

namespace SameWork

theorem refl (s : Session) : SameWork s s := ⟨rfl, rfl, rfl, rfl, rfl, rfl, rfl⟩

theorem trans {s s' s'' : Session} (first : SameWork s s') (second : SameWork s' s'') :
    SameWork s s'' :=
  ⟨second.runners.trans first.runners, second.outlet.trans first.outlet,
    second.keepAlive.trans first.keepAlive, second.receiver.trans first.receiver,
    second.teardowns.trans first.teardowns, second.config.trans first.config,
    second.credentials.trans first.credentials⟩

/-- Only what the event loop is about may differ. -/
theorem errand {s s' : Session} (same : SameWork s s') (w : Writer) (other : w ≠ .eventLoop) :
    s'.errand w = s.errand w := by
  -- Each writer has its errand in a part that is the same, apart from the loop's.
  cases w with
  | eventLoop => exact absurd rfl other
  | keepAlive => simp [Session.errand, same.keepAlive]
  | runner id => exact errand_runner_congr same.runners id
  | call call => simp [Session.errand, teardown?, same.teardowns]

end SameWork

theorem release_work (s : Session) (kind : ResourceKind) : SameWork s (s.release kind) := by
  unfold release
  split
  · exact ⟨map_core_modify _ _ _ fun _ => rfl, rfl, rfl, rfl, rfl, rfl, rfl⟩
  -- A kind that has no runner is released without anything happening.
  · exact .refl s

/-- Releasing a kind changes nothing but its record and the word given to its runner. -/
theorem release_loop (s : Session) (kind : ResourceKind) :
    (s.release kind).loop = s.loop ∧ (s.release kind).cancelled = s.cancelled ∧
      (s.release kind).state = s.state ∧ (s.release kind).tornDown = s.tornDown := by
  unfold release
  split <;> exact ⟨rfl, rfl, rfl, rfl⟩

@[simp] theorem release_closeCode (s : Session) (kind : ResourceKind) :
    (s.release kind).closeCode = s.closeCode := by
  unfold release
  split <;> rfl

@[simp] theorem release_alarms (s : Session) (kind : ResourceKind) :
    (s.release kind).alarms = s.alarms := by
  unfold release
  split <;> rfl

theorem foldl_release_work (kinds : List ResourceKind) (s : Session) :
    SameWork s (kinds.foldl release s) := by
  -- Each release keeps the work of the others, and so do several.
  induction kinds generalizing s with
  | nil => exact .refl s
  | cons kind rest ih => exact (s.release_work kind).trans (ih _)

theorem foldl_release_loop (kinds : List ResourceKind) (s : Session) :
    (kinds.foldl release s).cancelled = s.cancelled ∧
      (kinds.foldl release s).state = s.state ∧
      (kinds.foldl release s).tornDown = s.tornDown := by
  induction kinds generalizing s with
  | nil => exact ⟨rfl, rfl, rfl⟩
  | cons kind rest ih =>
    obtain ⟨-, first⟩ := s.release_loop kind
    -- The first release keeps all of it, and so do the others.
    obtain ⟨a, b, c⟩ := ih (s.release kind)
    exact ⟨a.trans first.1, b.trans first.2.1, c.trans first.2.2⟩

/-- Leaving the event loop only tells runners to stop, whatever failure it leaves for. -/
theorem leave_work (s : Session) (alarms : Alarms) (code : CloseCode) (now : Nat) :
    SameWork s ({ s with alarms, closeCode := code }.leave now) := by
  -- Leaving releases every kind, after parts that are no work were set.
  obtain ⟨runners, outlet, keepAlive, receiver, teardowns, config, credentials⟩ :=
    foldl_release_work ResourceKind.all { s with alarms, closeCode := code }.beginClosing
  exact ⟨runners, outlet, keepAlive, receiver, teardowns, config, credentials⟩

/-- What acting on a request comes to. -/
inductive Dispatches (s : Session) (request : Request) : Session → Prop where
  | ignored (silent : request.acknowledgment? = none) : Dispatches s request s
  /-- A runner may be told to stop before. -/
  | acknowledged {t : Session} {m : Message} (due : request.acknowledgment? = some m)
      (released : t = s ∨ ∃ kind, t = s.release kind)
      (start : Option (ResourceKind × String)) :
      Dispatches s request (t.acknowledge m start)

theorem dispatch_dispatches (s : Session) (request : Request) :
    Dispatches s request (s.dispatch request) := by
  cases request with
  | subscribe _ _ => exact .acknowledged rfl (.inl rfl) _
  | unsubscribe _ =>
    -- A kind that is not the catalog's has no runner to be told.
    simp only [dispatch]
    split
    · next k _ => exact .acknowledged rfl (.inr ⟨k, rfl⟩) none
    · exact .acknowledged rfl (.inl rfl) none
  | ignored _ => exact .ignored rfl

/-- Telling a runner to stop or not leaves alone what it is doing. -/
theorem work_of_released {s t : Session} (released : t = s ∨ ∃ kind, t = s.release kind) :
    SameWork s t := by
  -- Either nothing was released, or the record of one kind.
  rcases released with rfl | ⟨kind, rfl⟩
  · exact .refl t
  · exact s.release_work kind

/-- What neither telling a runner to stop nor an acknowledgment touches is the same after acting on
a request. -/
theorem Dispatches.keeps {α : Type} (f : Session → α) {s s' : Session} {request : Request}
    (acts : Dispatches s request s') (release : ∀ (t : Session) kind, f (t.release kind) = f t)
    (acknowledge : ∀ (t : Session) m start, f (t.acknowledge m start) = f t) : f s' = f s := by
  -- A request is ignored, or a record may be released before it is acknowledged.
  cases acts with
  | ignored _ => rfl
  | acknowledged _ released start =>
    rw [acknowledge]
    rcases released with rfl | ⟨kind, rfl⟩
    · rfl
    · exact release _ kind

/-- Acting on a request does nothing to the work of the runners. -/
theorem Dispatches.runners {s s' : Session} {request : Request} (acts : Dispatches s request s') :
    s'.runners.map Runner.core = s.runners.map Runner.core :=
  acts.keeps (fun t => t.runners.map Runner.core) (fun t kind => (t.release_work kind).runners)
    fun _ _ _ => rfl

/-- Acting on a request is done with the credentials the session has. -/
theorem Dispatches.credentials {s s' : Session} {request : Request}
    (acts : Dispatches s request s') : s'.credentials = s.credentials :=
  acts.keeps Session.credentials (fun t kind => (t.release_work kind).credentials) fun _ _ _ => rfl

/-- Acting on a request leaves the receiver alone. -/
theorem Dispatches.receiver {s s' : Session} {request : Request} (acts : Dispatches s request s') :
    s'.receiver = s.receiver :=
  acts.keeps Session.receiver (fun t kind => (t.release_work kind).receiver) fun _ _ _ => rfl

theorem reap_work (s : Session) (r : Runner) : SameWork s (s.reap r) :=
  ⟨map_core_modify _ _ _ fun _ => rfl, rfl, rfl, rfl, rfl, rfl, rfl⟩

/-! ### Runners that are stopped from outside -/

/-- Stops one runner from outside. -/
def abortRunner (s : Session) (e : Surroundings) (r : Runner) : Session × Surroundings :=
  ({ s with
      outlet := (r.abort s.outlet e).2.1
      runners := s.runners.set r.id (r.abort s.outlet e).1 },
    (r.abort s.outlet e).2.2)

theorem abort_id (r : Runner) (o : Outlet) (e : Surroundings) : (r.abort o e).1.id = r.id := by
  unfold Runner.abort
  split <;> rfl

theorem abortRunners_eq (s : Session) (e : Surroundings) :
    s.abortRunners e = s.runners.foldl (fun p r => p.1.abortRunner p.2 r) (s, e) := by
  -- The two walk over the runners alike, and differ only in how they write a runner's number.
  unfold abortRunners
  congr
  funext p r
  simp only [abortRunner, ← abort_id r p.1.outlet p.2]

/-- A runner that is stopped from outside gives up its place in line, and no more. -/
theorem abort_outlet (r : Runner) (o : Outlet) (e : Surroundings) :
    (r.abort o e).2.1 = o ∨ (r.abort o e).2.1 = o.leave (.runner r.id) := by
  -- A runner that is stopped gives up its place in line, if it was there to be stopped.
  unfold Runner.abort
  split
  · exact .inr rfl
  · exact .inl rfl

/-- What stopping a runner takes on from the runners before it to those up to it holds of all of
them when all are stopped. -/
theorem abortRunners_counts {P : Nat → Session → Surroundings → Prop} {s : Session}
    {e : Surroundings} (numbered : s.Numbered) (start : P 0 s e)
    (step : ∀ {s e r}, s.runners[r.id]? = some r → P r.id s e →
      P (r.id + 1) (s.abortRunner e r).1 (s.abortRunner e r).2) :
    P s.runners.length (s.abortRunners e).1 (s.abortRunners e).2 := by
  -- The induction is on the runners still to be stopped, which stand behind those that were.
  have general (rest : List Runner) : ∀ (k : Nat) (p : Session × Surroundings),
      p.1.runners.drop k = rest →
        (∀ (i : Nat) (r : Runner), rest[i]? = some r → r.id = k + i) →
      P k p.1 p.2 →
      P (k + rest.length) (rest.foldl (fun p r => p.1.abortRunner p.2 r) p).1
        (rest.foldl (fun p r => p.1.abortRunner p.2 r) p).2 := by
    induction rest with
    | nil => intro k p _ _ held; exact held
    | cons r rest ih =>
      intro k p behind places held
      have place : r.id = k := by simpa using places 0 r (by simp)
      have found : p.1.runners[r.id]? = some r := by
        rw [place]
        simpa [List.head?_drop] using congrArg List.head? behind
      have next := step found (place.symm ▸ held)
      rw [place] at next
      have count : k + (r :: rest).length = k + 1 + rest.length := by
        rw [List.length_cons]
        omega
      rw [count]
      refine ih (k + 1) (p.1.abortRunner p.2 r) ?_ ?_ next
      · -- Stopping a runner leaves those behind it where they are.
        have tail : p.1.runners.drop (k + 1) = rest := by
          rw [← List.drop_drop, behind]; rfl
        simpa [abortRunner, place, List.drop_set_of_lt] using tail
      · intro i q found
        have later := places (i + 1) q (by simpa using found)
        omega
  rw [abortRunners_eq]
  have whole := general s.runners 0 (s, e) (by simp)
    (fun i r found => by rw [numbered i r found, Nat.zero_add]) start
  rwa [Nat.zero_add] at whole

/-- What stopping each runner in its place keeps is kept when all are stopped. -/
theorem abortRunners_keeps {P : Session → Surroundings → Prop} {s : Session} {e : Surroundings}
    (numbered : s.Numbered) (start : P s e)
    (step : ∀ {s e r}, s.runners[r.id]? = some r → P s e →
      P (s.abortRunner e r).1 (s.abortRunner e r).2) :
    P (s.abortRunners e).1 (s.abortRunners e).2 :=
  abortRunners_counts (P := fun _ t x => P t x) numbered start step

/-- What does not depend on the line is the same once the runners are stopped. -/
theorem abortRunners_outlet {α : Type} (f : Outlet → α) (leaves : ∀ o w, f (o.leave w) = f o)
    {s : Session} (numbered : s.Numbered) (e : Surroundings) :
    f (s.abortRunners e).1.outlet = f s.outlet := by
  -- Stopping a runner takes it from the line at most.
  refine abortRunners_keeps (P := fun t _ => f t.outlet = f s.outlet) numbered rfl ?_
  intro t e r _ held
  rw [← held]
  show f (r.abort t.outlet e).2.1 = f t.outlet
  rcases abort_outlet r t.outlet e with same | left
  · rw [same]
  · rw [left, leaves]

/-! ### Calls that tear the session down -/

/-- Setting the phase of a call sets what is found for it, and nothing about the others. -/
theorem teardown?_setTeardown (s : Session) (call other : Nat) (phase : TeardownPhase) :
    (s.setTeardown call phase).teardown? other =
      if other = call then (s.teardown? call).map fun _ => phase else s.teardown? other :=
  Lookup.replace s.teardowns call other phase

/-! ### Every move is a step of the write side -/

/-- The writer that acts in a step of a task. -/
def Task.writer? : Task → Option Writer
  | .receiver => none
  | .eventLoop => some .eventLoop
  | .keepAlive => some .keepAlive
  | .runner id => some (.runner id)
  | .teardown call => some (.call call)

/-- Whether a writer acts in a move. -/
def Move.acts : Move → Writer → Prop
  | .task t, w => t.writer? = some w
  | _, _ => False

/-- Whether a writer may be stopped in a move: the event loop stops runners, and a call that tears
the session down stops keep-alive. -/
def Move.stops : Move → Writer → Prop
  | .task .eventLoop, w => ∃ id, w = .runner id
  | .task (.teardown _), w => w = .keepAlive
  | _, _ => False

end Session

/-- What a step of keep-alive does on the write side. -/
theorem KeepAlive.Steps.deed {k k' : KeepAlive} {o o' : Outlet} {now : Nat} {cancelled : Bool}
    {f : Option SessionFailure} (moved : k.Steps o now cancelled k' o' f) :
    WriteSide.Deed now .keepAlive o k.errand? o' k'.errand? := by
  -- Keep-alive gets in line at a tick, and otherwise goes on with the ping it has to write.
  cases moved with
  | told waits _ => simpa [errand?, waits] using .rested o none
  | ticked waits _ _ => simpa [errand?, waits] using .joined o (.write .ping) ⟨rfl, rfl⟩
  | wrote pings writes =>
    simpa [errand?, pings, StepResult.stage?] using WriteSide.Deed.of_stepWrite writes
  | pinged pings writes =>
    simpa [errand?, pings, StepResult.stage?] using WriteSide.Deed.of_stepWrite writes
  | failed pings writes =>
    simpa [errand?, pings, StepResult.stage?] using WriteSide.Deed.of_stepWrite writes

namespace Runner

/-- A runner whose watch is opened writes nothing. -/
theorem openWatch_rests {r r' : Runner} {o o' : Outlet} {e e' : Surroundings}
    {credentials : Credentials} {f : Option SessionFailure}
    (opens : r.openWatch o e credentials = (r', o', e', f)) : o' = o ∧ r'.errand? = none := by
  -- Whatever the watch answers, the runner has nothing to write yet.
  unfold openWatch at opens
  dsimp only at opens
  split at opens <;> cases opens <;> exact ⟨rfl, rfl⟩

/-- A step changes nothing about a runner but what it is doing. -/
theorem Steps.phase {r r' : Runner} {o o' : Outlet} {e e' : Surroundings}
    {credentials : Credentials} {stopped : Bool} {f : Option SessionFailure}
    (moved : r.Steps o e credentials stopped (r', o', e', f)) :
    ∃ phase, r' = { r with phase } := by
  generalize whole : (r', o', e', f) = change at moved
  cases moved with
  | toldFirst _ _ => cases whole; exact ⟨_, rfl⟩
  | opened _ _ =>
    -- However the backend answers, the runner keeps its number and its scope.
    unfold openWatch at whole
    dsimp only at whole
    split at whole <;> cases whole <;> exact ⟨_, rfl⟩
  | told _ _ => cases whole; exact ⟨_, rfl⟩
  | consumed _ _ consumes =>
    subst whole
    unfold consume at consumes
    split at consumes
    · split at consumes <;> cases consumes <;> exact ⟨_, rfl⟩
    -- Whatever else is read, the runner goes on, stops or waits.
    all_goals cases consumes
    all_goals exact ⟨_, rfl⟩
  | wrote _ _ => cases whole; exact ⟨_, rfl⟩
  | forwarded _ _ => cases whole; exact ⟨_, rfl⟩
  | failed _ _ => cases whole; exact ⟨_, rfl⟩

/-- What a step of a runner does on the write side. -/
theorem Steps.deed {r r' : Runner} {o o' : Outlet} {e e' : Surroundings}
    {credentials : Credentials} {stopped : Bool} {f : Option SessionFailure}
    (moved : r.Steps o e credentials stopped (r', o', e', f)) :
    WriteSide.Deed e.now (.runner r.id) o r.errand? o' r'.errand? := by
  -- A runner has something to write only from the event it reports up to the end of its frame.
  generalize whole : (r', o', e', f) = change at moved
  cases moved with
  | toldFirst spawned _ =>
    cases whole
    simpa [errand?, spawned] using .rested o none
  | opened spawned _ =>
    -- Opening a watch is nothing to the write side.
    obtain ⟨rfl, idle⟩ := openWatch_rests whole.symm
    have before : r.errand? = none := by simp [errand?, spawned]
    rw [before, idle]
    exact .rested o' none
  | told waits _ =>
    cases whole
    rcases waits with waits | ⟨w, waits⟩ <;> simpa [errand?, waits] using .rested o none
  | @consumed w _ waits _ consumes =>
    subst whole
    have idle : r.errand? = none := by simp [errand?, waits]
    rw [idle]
    unfold consume at consumes
    split at consumes
    · -- An event that is reported makes the runner get in line.
      split at consumes
      · cases consumes; simpa [idle] using .rested o none
      · next m reports =>
        cases consumes
        exact .joined o (.write (.message m)) ⟨rfl, Event.isNotification_of_report reports⟩
    -- All other readings leave the write side alone.
    · cases consumes; exact .rested o none
    · cases consumes; exact .rested o none
    · cases consumes; exact .rested o none
    · cases consumes; simpa [idle] using .rested o none
    · cases consumes
  | wrote forwards writes =>
    cases whole
    simpa [errand?, forwards, StepResult.stage?] using WriteSide.Deed.of_stepWrite writes
  | forwarded forwards writes =>
    cases whole
    simpa [errand?, forwards, StepResult.stage?] using WriteSide.Deed.of_stepWrite writes
  | failed forwards writes =>
    cases whole
    simpa [errand?, forwards, finish, StepResult.stage?] using WriteSide.Deed.of_stepWrite writes

end Runner

namespace Session

open WriteSide (Deed Step Steps)

variable {s s' : Session} {e e' : Surroundings}

/-- One writer does something on the write side of a session, and the others do not. -/
private theorem steps_of {w : Writer} {now : Nat} {acts stops : Writer → Prop} (allowed : acts w)
    (deed : Deed now w s.outlet (s.errand w) s'.outlet (s'.errand w))
    (others : ∀ x, x ≠ w → s'.errand x = s.errand x) :
    Steps now acts stops s.writeSide s'.writeSide :=
  .single ⟨deed, others⟩ allowed

/-- One writer is stopped, and the others go on. -/
private theorem steps_of_stop {w : Writer} {now : Nat} {acts stops : Writer → Prop}
    (allowed : stops w) (deed : Deed now w s.outlet (s.errand w) s'.outlet (s'.errand w))
    (others : ∀ x, x ≠ w → s'.errand x = s.errand x)
    (silent : s'.outlet.sent = s.outlet.sent) :
    Steps now acts stops s.writeSide s'.writeSide :=
  .stopped .none allowed ⟨deed, others⟩ silent

/-- Where nobody is about anything else, the write side is the same. -/
private theorem steps_of_eq {now : Nat} {acts stops : Writer → Prop}
    (outlet : s'.outlet = s.outlet)
    (errands : ∀ w, s'.errand w = s.errand w) :
    Steps now acts stops s.writeSide s'.writeSide := by
  -- The write side is made of the outlet and the errands.
  have same : s'.writeSide = s.writeSide := by
    rw [writeSide, writeSide, outlet, funext errands]
  rw [same]
  exact .none

/-- Telling runners to stop is nothing to the write side while the event loop writes nothing. -/
private theorem steps_of_work {now : Nat} {acts stops : Writer → Prop} (same : SameWork s s')
    (before : s.loop.errand? = none) (after : s'.loop.errand? = none) :
    Steps now acts stops s.writeSide s'.writeSide := by
  refine steps_of_eq same.outlet fun w => ?_
  cases w with
  -- The event loop writes nothing before and after, and the others go on.
  | eventLoop => exact after.trans before.symm
  | _ => exact same.errand _ (by simp)

/-- What a session is about once the runner with a number is replaced. -/
private theorem errand_setRunner {id : Nat} {r : Runner} (found : s.runners[id]? = some r)
    (r' : Runner) (o : Outlet) (alarms : Alarms) (w : Writer) :
    { s with outlet := o, runners := s.runners.set id r', alarms }.errand w =
      if w = .runner id then r'.errand? else s.errand w := by
  -- Only runners have their errands in the list of runners.
  cases w with
  | runner x =>
    by_cases same : x = id
    · -- In the place of the runner stands the new one, and the other places are as they were.
      subst same
      obtain ⟨inside, -⟩ := List.getElem?_eq_some_iff.mp found
      simp [errand, inside]
    · simp [errand, same, List.getElem?_set_ne (Ne.symm same)]
  | _ => rfl

/-- What a session is about once the phase of a call that is there is set. -/
private theorem errand_setTeardown {t : Session} {call : Nat} {old : TeardownPhase}
    (there : t.teardown? call = some old) (phase : TeardownPhase) (w : Writer) :
    (t.setTeardown call phase).errand w = if w = .call call then phase.errand? else t.errand w := by
  -- Only calls have their errands among the teardowns.
  cases w with
  | call other =>
    simp only [errand, teardown?_setTeardown, there, Writer.call.injEq]
    split <;> rfl
  | _ => rfl

/-- Stopping a runner from outside is a step of the runner on the write side. -/
private theorem abortRunner_steps {r : Runner} {now : Nat} {acts stops : Writer → Prop}
    (allowed : stops (.runner r.id)) (found : s.runners[r.id]? = some r) :
    Steps now acts stops s.writeSide (s.abortRunner e r).1.writeSide := by
  have own : s.errand (.runner r.id) = r.errand? := by simp [errand, found]
  have after := errand_setRunner found (r.abort s.outlet e).1 (r.abort s.outlet e).2.1 s.alarms
  refine steps_of_stop allowed ?_ (fun x differ => (after x).trans (if_neg differ)) ?_
  · rw [show (s.abortRunner e r).1.errand (.runner r.id) = (r.abort s.outlet e).1.errand? from
      (after _).trans (if_pos rfl), own]
    show Deed _ _ _ _ (r.abort s.outlet e).2.1 _
    -- A runner that still runs gives up its place in line.
    unfold Runner.abort
    split
    · exact .left s.outlet r.errand?_ne_close
    · exact .rested _ _
  · -- Giving up a place in line writes nothing.
    show (r.abort s.outlet e).2.1.sent = s.outlet.sent
    rcases abort_outlet r s.outlet e with same | left
    · rw [same]
    · rw [left, Outlet.sent_leave]

/-- Beginning to write an acknowledgment is a step of the event loop on the write side. -/
private theorem acknowledge_steps {t : Session} {now : Nat} (outlet : t.outlet = s.outlet)
    (others : ∀ w, w ≠ .eventLoop → t.errand w = s.errand w) (idle : s.loop.errand? = none)
    (m : Message) (answers : m.op.isAcknowledgment = true)
    (start : Option (ResourceKind × String)) :
    Steps now (Move.task .eventLoop).acts (Move.task .eventLoop).stops s.writeSide
      (t.acknowledge m start).writeSide := by
  -- The loop gets in line, and the errands of the others are as they were.
  refine steps_of (w := .eventLoop) (.refl _) ?_ fun x differ => ?_
  · rw [show s.errand .eventLoop = none from idle, ← outlet]
    exact .joined _ (.write (.message m)) ⟨rfl, answers⟩
  · have same := others x differ
    cases x <;> first | exact same | exact absurd rfl differ

/-- What a session is about once an acknowledgment is written: the event loop has done its part, and
a runner that is started writes nothing yet. -/
private theorem errand_acknowledged (s : Session) (o : Outlet) (f : Option SessionFailure)
    (start : Option (ResourceKind × String)) (w : Writer) :
    (s.acknowledged o f start).errand w = if w = .eventLoop then none else s.errand w := by
  cases start with
  | none => cases w <;> rfl
  | some due =>
    cases w with
    | runner id =>
      simp only [acknowledged, spawn, errand, List.getElem?_append, reduceCtorEq, if_false]
      split
      · rfl
      · next outside =>
        -- Behind the runners that were there, there was nobody to write.
        rw [List.getElem?_eq_none (by omega : s.runners.length ≤ id)]
        cases id - s.runners.length <;> rfl
    | _ => rfl

/-- Every step of the event loop is made of steps of the write side. -/
theorem LoopSteps.writeSide (numbered : s.Numbered) (moved : s.LoopSteps e s' e') :
    Steps e.now (Move.task .eventLoop).acts (Move.task .eventLoop).stops s.writeSide
      s'.writeSide := by
  -- A loop that selects has nothing to write, so what it begins is new.
  have idle (selects : s.loop = .selecting) : s.loop.errand? = none := by rw [selects]; rfl
  cases moved with
  | told selects _ => exact steps_of_work (leave_work s s.alarms .away e.now) (idle selects) rfl
  | failed selects _ _ => exact steps_of_work (leave_work s _ _ e.now) (idle selects) rfl
  | @dispatched request rest selects _ _ _ =>
    let taken := { s with receiver := { s.receiver with queue := rest } }
    have acts := taken.dispatch_dispatches request
    generalize taken.dispatch request = s' at acts
    cases acts with
    | ignored _ => exact steps_of_eq rfl fun _ => rfl
    | acknowledged due released start =>
      have work := work_of_released released
      exact acknowledge_steps work.outlet work.errand (idle selects) _
        (request.isAcknowledgment_of_due due) start
  | ended selects _ _ _ _ =>
    exact steps_of_work (leave_work s s.alarms s.closeCode e.now) (idle selects) rfl
  | reaped selects _ _ _ _ _ => exact steps_of_work (reap_work s _) (idle selects) (idle selects)
  | @wrote m stage stage' o' start answers writes =>
    refine steps_of (w := .eventLoop) (.refl _) ?_ fun x differ => ?_
    -- The loop goes on with its answer.
    · rw [errand_acknowledging answers]
      exact .of_stepWrite writes
    · cases x <;> first | rfl | exact absurd rfl differ
  | @answered m stage o' ok f start answers writes =>
    have after := s.errand_acknowledged o' f start
    have outlet : (s.acknowledged o' f start).outlet = o' := by cases start <;> rfl
    refine steps_of (w := .eventLoop) (.refl _) ?_ fun x differ => (after x).trans (if_neg differ)
    -- The loop is done with its answer and has nothing to write from here on.
    rw [after, if_pos rfl, outlet, errand_acknowledging answers]
    exact .of_stepWrite writes
  | drained drains _ =>
    -- The loop that ends has written nothing since it was left.
    refine steps_of_eq rfl fun w => ?_
    cases w with
    | eventLoop => simp [errand, drains, endLoop, LoopPhase.errand?]
    | _ => rfl
  | aborted drains _ =>
    -- The runners are stopped one after the other, and then the loop ends.
    have stopped := abortRunners_keeps (e := e)
      (P := fun t _ => Steps e.now (Move.task .eventLoop).acts (Move.task .eventLoop).stops
        s.writeSide t.writeSide ∧ t.loop = s.loop) numbered ⟨.none, rfl⟩
      (fun found held =>
        ⟨held.1.trans (abortRunner_steps ⟨_, rfl⟩ found), held.2⟩)
    refine stopped.1.trans (steps_of_eq rfl fun w => ?_)
    cases w with
    | eventLoop => simp [errand, stopped.2, drains, endLoop, LoopPhase.errand?]
    | _ => rfl

/-- Getting in line to close is a step of the call on the write side. -/
private theorem beginClose_steps {call : Nat} {old : TeardownPhase} {now : Nat}
    (there : s.teardown? call = some old) (idle : old.errand? = none) :
    Steps now (Move.task (.teardown call)).acts (Move.task (.teardown call)).stops s.writeSide
      (s.beginClose call).writeSide := by
  -- The call gets in line with its close frame.
  have after := errand_setTeardown (t := { s with outlet := s.outlet.join (.call call) }) there
    (.closing s.closeCode .queued)
  refine steps_of (w := .call call) (.refl _) ?_ fun x differ => ?_
  · have own : s.errand (.call call) = none := by simp [errand, there, idle]
    rw [own, beginClose, after, if_pos rfl]
    exact .joined _ (.close _) rfl
  · rw [beginClose, after, if_neg differ]
    cases x <;> rfl

/-- Every step of a call that tears the session down is made of steps of the write side. -/
theorem TeardownSteps.writeSide {call : Nat} (moved : s.TeardownSteps e call s' e') :
    Steps e.now (Move.task (.teardown call)).acts (Move.task (.teardown call)).stops s.writeSide
      s'.writeSide := by
  cases moved with
  | begun waits _ => exact beginClose_steps waits rfl
  | aborted waits _ =>
    refine Steps.trans (u := s.abortLoops.writeSide) ?_ (beginClose_steps waits rfl)
    refine steps_of_stop (w := .keepAlive) rfl ?_ (fun x differ => ?_) ?_
    -- The loops are stopped first, of which only keep-alive may stand in line.
    · -- Keep-alive gives its place up if it had one.
      simp only [abortLoops, KeepAlive.abort]
      split
      · exact .left s.outlet s.keepAlive.errand?_ne_close
      · exact .rested s.outlet _
    · cases x <;> first | rfl | exact absurd rfl differ
    · simp only [abortLoops, KeepAlive.abort]
      split <;> rfl
  | @wrote code stage stage' o' closing closes =>
    have after := errand_setTeardown (t := { s with outlet := o' }) closing (.closing code stage')
    refine steps_of (w := .call call) (.refl _) ?_ fun x differ => ?_
    -- The call goes on with its close frame.
    · rw [errand_closing closing, after, if_pos rfl]
      exact .closed (Outlet.stepClose_closes closes)
    · rw [after, if_neg differ]
      cases x <;> rfl
  | @closed code stage o' ok f closing closes =>
    have after := errand_setTeardown
      (t := { s with outlet := o', state := s.state.advance .closed }) closing .finished
    refine steps_of (w := .call call) (.refl _) ?_ fun x differ => ?_
    -- The call is done with its close frame.
    · rw [errand_closing closing, after, if_pos rfl]
      exact .closed (Outlet.stepClose_closes closes)
    · rw [after, if_neg differ]
      cases x <;> rfl
  | watched watches _ =>
    -- A call that only watches has nothing to do on the connection.
    refine steps_of_eq rfl fun w => ?_
    rw [errand_setTeardown watches]
    split
    · next same => simp [same, errand, watches, TeardownPhase.errand?]
    · rfl

/-- A new call only waits. -/
private theorem errand_beginTeardown {call : Nat} (fresh : s.teardown? call = none) (now : Nat)
    (w : Writer) : (s.beginTeardown call now).errand w = s.errand w := by
  cases w with
  | call other =>
    have none : s.teardowns.lookup call = none := fresh
    simp only [errand, beginTeardown, beginClosing, teardown?, Lookup.append]
    -- The call is new, and it waits for the loops or watches the call that was first.
    by_cases same : other = call
    · subst same
      rw [none, if_pos rfl, Option.none_or]
      by_cases first : s.tornDown = true <;> simp [first, TeardownPhase.errand?]
    · simp [same]
  | _ => rfl

/-- Every move is made of steps of the write side by the writers that act or are stopped in it. -/
theorem Moves.writeSide {m : Move} (numbered : s.Numbered) (moved : s.Moves e m s' e') :
    Steps e.now m.acts m.stops s.writeSide s'.writeSide := by
  -- Each task writes as itself, and what comes from outside concerns the transport alone.
  cases moved with
  | received _ => exact steps_of_eq rfl fun w => by cases w <;> rfl
  | looped steps => exact steps.writeSide numbered
  | keptAlive steps =>
    refine steps_of (w := .keepAlive) (.refl _) steps.deed fun x differ => ?_
    cases x <;> first | rfl | exact absurd rfl differ
  | @ran id r r' o _ f found steps =>
    have after := errand_setRunner found r' o (s.alarms.reportAny f)
    refine steps_of (w := .runner id) (.refl _) ?_ fun x differ => (after x).trans (if_neg differ)
    -- The runner writes under its number, which is its place.
    have deed := steps.deed
    rw [numbered id r found] at deed
    have own : s.errand (.runner id) = r.errand? := by simp [errand, found]
    rw [own, after (.runner id), if_pos rfl]
    exact deed
  | closed steps => exact steps.writeSide
  | arrived _ => exact steps_of_eq rfl fun w => by cases w <;> rfl
  | hungUp => exact steps_of_eq rfl fun w => by cases w <;> rfl
  | rewired wire =>
    -- How the transport behaves is a matter of the outlet alone.
    have same : { s with outlet := { s.outlet with wire } }.writeSide =
        { s.writeSide with outlet := { s.writeSide.outlet with wire } } := by
      rw [writeSide, writeSide]
      congr 1
    rw [same]
    exact .rewired .none wire
  | told => exact steps_of_eq rfl fun w => by cases w <;> rfl
  | called fresh => exact steps_of_eq rfl (errand_beginTeardown fresh e.now)
  | shared _ _ => exact .none
  | passed _ => exact .none

/-- What each move adds to the connection comes behind what is there. -/
theorem Moves.sent_grows {m : Move} (numbered : s.Numbered) (moved : s.Moves e m s' e') :
    s.outlet.sent <+: s'.outlet.sent :=
  (moved.writeSide numbered).grows

/-! ### What holds along runs -/

private theorem Numbered.set {id : Nat} {r : Runner} {o : Outlet} {alarms : Alarms}
    (numbered : s.Numbered) (number : r.id = id) :
    { s with outlet := o, runners := s.runners.set id r, alarms }.Numbered := by
  intro i q found
  -- The new runner has the number of its place, and the others keep theirs.
  by_cases same : id = i
  · subst same
    simp only [List.getElem?_set_self'] at found
    cases before : s.runners[id]? with
    | none => simp [before] at found
    | some _ =>
      obtain rfl : r = q := by simpa [before] using found
      exact number
  · simp only [List.getElem?_set_ne same] at found
    exact numbered i q found

/-- What a step of the event loop does with the runners. -/
inductive Oversees (s : Session) (e : Surroundings) (s' : Session) (e' : Surroundings) : Prop where
  /-- Some may be told to stop, or their end be taken note of. -/
  | kept (same : s'.runners.map Runner.core = s.runners.map Runner.core)
      (source : e'.source = e.source)
  | started (kind : ResourceKind) (project : String)
      (runners : s'.runners = s.runners ++ [.new s.runners.length kind project])
      (source : e'.source = e.source)
  | aborted (runners : s'.runners = (s.abortRunners e).1.runners)
      (env : e' = (s.abortRunners e).2)

theorem LoopSteps.oversees (moved : s.LoopSteps e s' e') : s.Oversees e s' e' := by
  -- Runners come with an answered subscribe and are stopped when the loop gives up. All else keeps
  -- them.
  cases moved with
  | told _ _ => exact .kept (leave_work s s.alarms .away e.now).runners rfl
  | failed _ _ _ => exact .kept (leave_work s _ _ e.now).runners rfl
  | @dispatched request rest _ _ _ _ => exact .kept (dispatch_dispatches _ request).runners rfl
  | ended _ _ _ _ _ => exact .kept (leave_work s s.alarms s.closeCode e.now).runners rfl
  | reaped _ _ _ _ _ _ => exact .kept (reap_work s _).runners rfl
  | wrote _ _ => exact .kept rfl rfl
  | @answered _ _ _ _ _ start _ _ =>
    cases start with
    | none => exact .kept rfl rfl
    | some due => exact .started due.1 due.2 rfl rfl
  | drained _ _ => exact .kept rfl rfl
  | aborted _ _ => exact .aborted rfl rfl

/-- A step of the event loop leaves each runner in the place of its number. -/
theorem LoopSteps.numbered (numbered : s.Numbered) (moved : s.LoopSteps e s' e') : s'.Numbered := by
  cases moved.oversees with
  | kept same _ => exact numbered.congr same
  | started kind project runners _ =>
    -- The new runner is numbered by its place.
    intro id r found
    rw [runners, List.getElem?_append] at found
    split at found
    · exact numbered id r found
    · next outside =>
      obtain ⟨place, same⟩ := List.getElem?_eq_some_iff.mp found
      simp only [List.length_singleton] at place
      have here : id = s.runners.length := by omega
      subst here
      simp only [List.getElem_singleton] at same
      rw [← same]
      rfl
  | aborted runners _ =>
    -- Each runner that is stopped stays in its place.
    have held : (s.abortRunners e).1.Numbered :=
      abortRunners_keeps (P := fun t _ => t.Numbered) numbered numbered
        (fun {t e r} _ held => held.set (abort_id r t.outlet e))
    exact held.congr (congrArg _ runners)

/-- Every move leaves each runner in the place of its number. -/
theorem Moves.numbered {m : Move} (numbered : s.Numbered) (moved : s.Moves e m s' e') :
    s'.Numbered := by
  -- A runner keeps its number when it goes on, and only the loop adds or stops runners.
  cases moved with
  | looped steps => exact steps.numbered numbered
  | @ran id r _ _ _ _ found steps =>
    obtain ⟨phase, rfl⟩ := steps.phase
    exact numbered.set (numbered id r found)
  | closed steps => cases steps <;> exact numbered
  | _ => exact numbered

/-- The runners of a session that has just started are none. -/
theorem Begins.runners (begins : Begins s) : s.runners = [] := by
  cases begins <;> rfl

theorem Begins.numbered (begins : Begins s) : s.Numbered := by
  intro id r found
  simp [begins.runners] at found

/-- Nobody writes on the connection of a session that has just started. -/
theorem Begins.errand (begins : Begins s) (w : Writer) : s.errand w = none := by
  -- Keep-alive waits for its first tick, or has ended if it never pings.
  have keepAlive (now interval : Nat) : (KeepAlive.new now interval).errand? = none := by
    unfold KeepAlive.new
    split <;> rfl
  cases begins <;> cases w <;> first | rfl | exact keepAlive _ _

/-- What is known of the write side after any run of a session. -/
structure Sound (s : Session) : Prop where
  numbered : s.Numbered
  orderly : s.writeSide.Orderly
  proper : s.writeSide.Proper

/-- The write side of a session that has just started is in order. -/
theorem Begins.sound (begins : Begins s) : s.Sound := by
  -- A session begins with an empty line, an empty log and nobody who has anything to write.
  have line : s.outlet.line = [] := by cases begins <;> rfl
  have idle (w : Writer) : s.writeSide.errand w = none := begins.errand w
  have sent : s.outlet.sent = [] := by cases begins <;> rfl
  refine ⟨begins.numbered, ⟨?_, ?_, ?_, ?_, ?_⟩, ?_, ?_, ?_⟩
  · simp [writeSide, line]
  · intro w
    rw [idle]
    simp [writeSide, line, Errand.isInLine]
  · intro w writes
    simp [idle, Errand.isWriting] at writes
  · intro w takes
    simp [idle, Errand.hasTaken] at takes
  · intro w x takes
    simp [idle, Errand.hasTaken] at takes
  · intro w
    rw [idle]
    trivial
  · intro x member
    simp [writeSide, sent] at member
  · intro before f after frames
    simp [writeSide, Outlet.frames, sent] at frames

/-- Every move keeps the write side in order. -/
theorem Moves.sound {m : Move} (sound : s.Sound) (moved : s.Moves e m s' e') : s'.Sound := by
  obtain ⟨orderly, proper⟩ := (moved.writeSide sound.numbered).sound sound.orderly sound.proper
  exact ⟨moved.numbered sound.numbered, orderly, proper⟩

/-- The write side is in order after any run. -/
theorem Run.sound {s₀ : Session} {e₀ : Surroundings} {past : List Occasion}
    (begins : Begins s₀)
    (run : Run s₀ e₀ past s e) : s.Sound :=
  run.keeps (P := fun s _ => s.Sound) begins.sound fun moved held => (move_moves moved).sound held

/-- What is on the connection stays the first of what is there. -/
theorem Run.sent_grows {s₀ : Session} {e₀ : Surroundings} {past : List Occasion}
    (sound : s₀.Sound)
    (run : Run s₀ e₀ past s e) : s₀.outlet.sent <+: s.outlet.sent := by
  -- Each move writes at the end of the log, as long as the session is sound.
  have held := run.keeps (P := fun t _ => t.Sound ∧ s₀.outlet.sent <+: t.outlet.sent)
    ⟨sound, List.prefix_refl _⟩ ?_
  · exact held.2
  · rintro t t' x x' m moved ⟨sound, grows⟩
    have moves := move_moves moved
    exact ⟨moves.sound sound, grows.trans (moves.sent_grows sound.numbered)⟩

end Session

end WatchRelay
