import WatchRelay.Proofs.Session.Runners

/-! What the moves of a session count: each count grows by what happens in the move, and the gauge
of active runners follows those that have begun and are not gone. -/

namespace WatchRelay

/-- Changing the value of a kind changes no other. -/
theorem PerKind.get_modify {α : Type} (p : PerKind α) (kind other : ResourceKind)
    (f : α → α) :
    (p.modify kind f).get other = if kind = other then f (p.get kind) else p.get other := by
  -- Only the entry of the kind is changed.
  unfold modify
  split
  · next same => rw [← same, get_set_self]
  · next differ => rw [get_set_of_ne p (Ne.symm differ)]

/-- How what the runners are counted by grows; nothing else is counted. -/
structure Metrics.Grows (m m' : Metrics) (active : Int) (forwarded failed : ResourceKind → Nat) :
    Prop where
  total : m'.sessionsTotal = m.sessionsTotal
  sessions : m'.sessionsActive = m.sessionsActive
  errors : m'.sessionErrors = m.sessionErrors
  active : m'.subscriptionsActive = m.subscriptionsActive + active
  forwarded : ∀ k, m'.forwarded.get k = m.forwarded.get k + forwarded k
  failed : ∀ k, m'.runnerFailures.get k = m.runnerFailures.get k + failed k

namespace Metrics.Grows

variable {m m₁ m₂ : Metrics} {a b : Int} {f g : ResourceKind → Nat}
  {f' g' : ResourceKind → Nat}

theorem refl (m : Metrics) : m.Grows m 0 (fun _ => 0) (fun _ => 0) :=
  ⟨rfl, rfl, rfl, (Int.add_zero _).symm, fun _ => rfl, fun _ => rfl⟩

theorem trans (first : m.Grows m₁ a f g) (second : m₁.Grows m₂ b f' g') :
    -- Each counter grows by what both add to it.
    m.Grows m₂ (a + b) (fun k => f k + f' k) (fun k => g k + g' k) where
  total := second.total.trans first.total
  sessions := second.sessions.trans first.sessions
  errors := second.errors.trans first.errors
  active := by rw [second.active, first.active, Int.add_assoc]
  forwarded k := by rw [second.forwarded, first.forwarded, Nat.add_assoc]
  failed k := by rw [second.failed, first.failed, Nat.add_assoc]

theorem begun (m : Metrics) : m.Grows m.runnerBegun 1 (fun _ => 0) (fun _ => 0) :=
  ⟨rfl, rfl, rfl, rfl, fun _ => rfl, fun _ => rfl⟩

theorem gone (m : Metrics) : m.Grows m.runnerGone (-1) (fun _ => 0) (fun _ => 0) :=
  ⟨rfl, rfl, rfl, rfl, fun _ => rfl, fun _ => rfl⟩

theorem delivered (m : Metrics) (kind : ResourceKind) :
    m.Grows (m.eventForwarded kind) 0 (fun k => if kind = k then 1 else 0) (fun _ => 0) := by
  -- The count of the kind grows by one, and those of the others stay.
  refine ⟨rfl, rfl, rfl, (Int.add_zero _).symm, fun k => ?_, fun _ => rfl⟩
  rw [eventForwarded, PerKind.get_modify]
  split
  · next same => rw [same]
  · rfl

theorem blamed (m : Metrics) (kind : ResourceKind) :
    m.Grows (m.runnerFailed kind) 0 (fun _ => 0) (fun k => if kind = k then 1 else 0) := by
  -- Only the failures of this kind grow.
  refine ⟨rfl, rfl, rfl, (Int.add_zero _).symm, fun _ => rfl, fun k => ?_⟩
  rw [runnerFailed, PerKind.get_modify]
  split
  · next same => rw [same]
  · rfl

end Metrics.Grows

namespace Runner

/-- What a runner is to the gauge of active ones. -/
def gauge (r : Runner) : Int := if r.isActive then 1 else 0

/-- Whether a runner was ended by a failure of its backend. -/
def hasFailed (r : Runner) : Bool :=
  match r.phase with
  | .finished reason => reason.isFailure
  | .spawned | .opening | .streaming _ | .forwarding _ _ _ | .crashed | .aborted => false

/-- What a runner is to the count of failed ones of each kind. -/
def failures (r : Runner) (kind : ResourceKind) : Nat :=
  if r.hasFailed = true ∧ r.kind = kind then 1 else 0

/-- Whether the write succeeds that the next step of a runner ends, if it ends one. -/
def outcome? (r : Runner) (o : Outlet) (now : Nat) : Option Bool :=
  match r.phase with
  | .forwarding _ m stage =>
    match o.stepWrite now (.runner r.id) (.message m) stage with
    | some (_, .done ok _) => some ok
    | _ => none
  | .spawned | .opening | .streaming _ | .finished _ | .crashed | .aborted => none

/-- What the next step of a runner is to the count of forwarded events of each kind. -/
def deliveries (r : Runner) (o : Outlet) (now : Nat) (kind : ResourceKind) : Nat :=
  if r.outcome? o now = some true ∧ r.kind = kind then 1 else 0

variable {r r' : Runner} {o o' : Outlet} {e e' : Surroundings} {credentials : Credentials}
  {stopped : Bool} {f : Option SessionFailure}

/-- What a runner has failed by is the opening of its watch or an error of its stream. -/
theorem hasFailed_iff : r.hasFailed = true ↔
    r.phase = .finished .openFailed ∨ r.phase = .finished .streamFailed := by
  -- Of the reasons to finish these two are failures.
  unfold hasFailed
  cases r.phase with
  | finished reason => cases reason <;> simp [RunnerEnd.isFailure]
  | _ => simp

/-- A runner that has not failed is none of the failed ones. -/
theorem failures_of_not (sound : r.hasFailed = false) : r.failures = fun _ => 0 := by
  funext kind
  simp [failures, sound]

/-- A runner that has failed is one of the failed ones of its kind. -/
theorem failures_of_failed (failed : r.hasFailed = true) :
    r.failures = fun kind => if r.kind = kind then 1 else 0 := by
  funext kind
  simp [failures, failed]

/-- A runner that runs has not failed. -/
theorem hasFailed_of_running (runs : r.isRunning = true) : r.hasFailed = false := by
  -- A runner that runs has not finished.
  unfold isRunning at runs
  unfold hasFailed
  split at runs <;> simp_all

/-- A step that is not the end of a write that succeeds delivers nothing. -/
theorem deliveries_of_not {now : Nat} (none : r.outcome? o now ≠ some true) :
    r.deliveries o now = fun _ => 0 := by
  funext kind
  simp [deliveries, none]

@[simp] theorem letGo_metrics (r : Runner) (e : Surroundings) :
    (r.letGo e).metrics = e.metrics := by
  unfold letGo
  split <;> rfl

/-- A runner that has begun is counted off when it stops, and counted as failed if its backend is to
blame. -/
theorem finish_grows (r : Runner) (o : Outlet) (e : Surroundings) (reason : RunnerEnd)
    (f : Option SessionFailure) :
    e.metrics.Grows (r.finish o e reason f).2.2.1.metrics (-1) (fun _ => 0)
      (r.finish o e reason f).1.failures := by
  -- Letting go of its watch counts nothing.
  have gone := Metrics.Grows.gone (r.letGo e).metrics
  rw [letGo_metrics] at gone
  cases blame : reason.isFailure with
  | false =>
    rw [failures_of_not (by exact blame)]
    simpa [finish, Surroundings.count, blame] using gone
  | true =>
    rw [failures_of_failed (by exact blame)]
    simpa [finish, Surroundings.count, blame] using gone.trans (.blamed _ r.kind)

/-- A runner that breaks down is counted off. -/
theorem crash_grows (r : Runner) (o : Outlet) (e : Surroundings) :
    e.metrics.Grows (r.crash o e).2.2.1.metrics (-1) (fun _ => 0) (r.crash o e).1.failures := by
  -- A runner that breaks down leaves the gauge, and counts as no failure.
  have gone := Metrics.Grows.gone (r.letGo e).metrics
  rw [letGo_metrics] at gone
  rw [failures_of_not rfl]
  simpa [crash, Surroundings.count] using gone

/-- A runner that goes on is counted by nothing. -/
private theorem goes_on (m : Metrics) (runs : r'.isRunning = true) (active : r'.gauge = 1) :
    m.Grows m (r'.gauge - 1) (fun _ => 0) r'.failures := by
  rw [failures_of_not (hasFailed_of_running runs), active]
  exact .refl m

/-- A runner that asks for its watch is counted off if that makes it stop. -/
theorem openWatch_grows (r : Runner) (o : Outlet) (e : Surroundings) (credentials : Credentials) :
    e.metrics.Grows (r.openWatch o e credentials).2.2.1.metrics
      ((r.openWatch o e credentials).1.gauge - 1) (fun _ => 0)
      (r.openWatch o e credentials).1.failures := by
  unfold openWatch
  dsimp only
  generalize e.source.openWatch _ credentials = answered
  obtain ⟨answer, source⟩ := answered
  -- It waits for the answer or has it, is refused, or breaks down; only the two last are counted.
  cases answer <;> dsimp only
  · exact goes_on e.metrics rfl rfl
  · exact finish_grows r o { e with source, requests := _ } .openFailed none
  · exact goes_on e.metrics rfl rfl
  · exact crash_grows r o { e with source, requests := _ }

/-- What a runner makes of a reading is counted where it makes the runner stop. -/
theorem consume_grows {w : Nat} {reading : Reading} {change : Runner.Change}
    (waits : r.phase = .streaming w) (consumes : r.consume o e w reading = some change) :
    e.metrics.Grows change.2.2.1.metrics (change.1.gauge - 1) (fun _ => 0) change.1.failures := by
  have runs : r.isRunning = true := by simp [isRunning, waits]
  have active : r.gauge = 1 := by simp [gauge, isActive, waits]
  unfold consume at consumes
  split at consumes
  · -- An event does not make it stop.
    split at consumes <;> cases consumes
    · exact goes_on e.metrics runs active
    · exact goes_on e.metrics rfl rfl
  · cases consumes; exact finish_grows r o e .streamFailed none
  · cases consumes; exact finish_grows r o e .streamEnded none
  · cases consumes; exact crash_grows r o e
  · cases consumes; exact goes_on e.metrics runs active
  · cases consumes

/-- What a step of a runner is counted by. -/
theorem Steps.grows (moved : r.Steps o e credentials stopped (r', o', e', f)) :
    e.metrics.Grows e'.metrics (r'.gauge - r.gauge) (r.deliveries o e.now) r'.failures := by
  generalize whole : (r', o', e', f) = change at moved
  cases moved with
  | toldFirst spawned _ =>
    -- It has begun, and stops at once.
    cases whole
    have idle : r.gauge = 0 := by simp [gauge, isActive, spawned]
    rw [deliveries_of_not (by simp [outcome?, spawned]), idle]
    exact (Metrics.Grows.begun e.metrics).trans
      (finish_grows r o (e.count .runnerBegun) .cancelled none)
  | opened spawned _ =>
    -- It has begun, and what comes of its opening is counted behind that.
    have idle : r.gauge = 0 := by simp [gauge, isActive, spawned]
    have opens := (Metrics.Grows.begun e.metrics).trans
      (openWatch_grows r o (e.count .runnerBegun) credentials)
    rw [← whole] at opens
    rw [deliveries_of_not (by simp [outcome?, spawned]), idle]
    have same : (1 : Int) + (r'.gauge - 1) = r'.gauge - 0 := by omega
    simpa [same] using opens
  | told waits _ =>
    cases whole
    have active : r.gauge = 1 := by
      rcases waits with waits | ⟨_, waits⟩ <;> simp [gauge, isActive, waits]
    have none : r.outcome? o e.now ≠ some true := by
      rcases waits with waits | ⟨_, waits⟩ <;> simp [outcome?, waits]
    rw [deliveries_of_not none, active]
    exact finish_grows r o e .cancelled Option.none
  | consumed waits _ consumes =>
    have active : r.gauge = 1 := by simp [gauge, isActive, waits]
    have grows := consume_grows waits consumes
    rw [← whole] at grows
    rw [deliveries_of_not (by simp [outcome?, waits]), active]
    exact grows
  | wrote forwards writes =>
    -- The write goes on.
    cases whole
    have active : r.gauge = 1 := by simp [gauge, isActive, forwards]
    rw [deliveries_of_not (by simp [outcome?, forwards, writes]), active]
    exact goes_on e.metrics rfl rfl
  | forwarded forwards writes =>
    cases whole
    have active : r.gauge = 1 := by simp [gauge, isActive, forwards]
    -- The write has succeeded, so its event is counted, and the runner goes on.
    have delivers : r.deliveries o e.now = fun kind => if r.kind = kind then 1 else 0 := by
      funext kind
      simp [deliveries, outcome?, forwards, writes]
    rw [delivers, active, failures_of_not (hasFailed_of_running rfl)]
    exact .delivered e.metrics r.kind
  | failed forwards writes =>
    cases whole
    have active : r.gauge = 1 := by simp [gauge, isActive, forwards]
    -- A write that fails is no failure of the backend.
    rw [deliveries_of_not (by simp [outcome?, forwards, writes]), active]
    exact finish_grows r o' e .sinkClosed f

end Runner

end WatchRelay
