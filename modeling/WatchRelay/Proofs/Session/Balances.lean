import WatchRelay.Proofs.Session.Lifecycle
import WatchRelay.Proofs.Session.Tallies

/-! What one session is to the counts: a move changes them by just as much as it changes what they
count of the session. -/

namespace WatchRelay

/-- Replacing an element of a list changes a count of its elements by what the two are to it. -/
theorem countP_set_add {α : Type} (p : α → Bool) {l : List α} {i : Nat} {a : α} (b : α)
    (found : l[i]? = some a) :
    (l.set i b).countP p + (if p a then 1 else 0) = l.countP p + (if p b then 1 else 0) := by
  obtain ⟨inside, rfl⟩ := List.getElem?_eq_some_iff.mp found
  -- The element that is replaced is among those that are counted, if it is one of them.
  have least := List.boole_getElem_le_countP (p := p) inside
  rw [List.countP_set inside]
  omega

namespace Runner

/-- Whether a runner of a kind was ended by a failure of its backend. -/
def isFailedOf (kind : ResourceKind) (r : Runner) : Bool := r.hasFailed && r.kind == kind

theorem gauge_eq (r : Runner) : r.gauge = ((if r.isActive then 1 else 0 : Nat) : Int) := by
  unfold gauge
  split <;> rfl

theorem failures_eq (r : Runner) (kind : ResourceKind) :
    r.failures kind = if r.isFailedOf kind then 1 else 0 := by
  simp [failures, isFailedOf]

/-- A runner that is stopped from outside is counted off if it has begun, and not counted as
failed. -/
theorem abort_grows (r : Runner) (o : Outlet) (e : Surroundings) :
    e.metrics.Grows (r.abort o e).2.2.metrics ((r.abort o e).1.gauge - r.gauge) (fun _ => 0)
      (fun _ => 0) ∧ (r.abort o e).1.failures = r.failures := by
  -- A runner that still ran leaves the gauge if it was in it, and fails at nothing by this.
  unfold abort
  split
  · next runs =>
    rw [failures_of_not rfl, failures_of_not (hasFailed_of_running runs)]
    refine ⟨?_, rfl⟩
    rw [show ({ r with phase := .aborted } : Runner).gauge = 0 from rfl, gauge]
    cases r.isActive with
    | true =>
      have gone := Metrics.Grows.gone (r.letGo e).metrics
      rw [letGo_metrics] at gone
      simpa [Surroundings.count] using gone
    | false => simpa using Metrics.Grows.refl e.metrics
  · refine ⟨?_, rfl⟩
    rw [Int.sub_self]
    exact .refl e.metrics

end Runner

namespace Session

variable {s s' s₀ : Session} {e e' e₀ : Surroundings} {m : Move}

/-- Whether a session is closed. -/
def isClosed (s : Session) : Bool := s.state == .closed

/-- The failure for which the event loop leaves its loop in a move. -/
def leavesFor? (s : Session) : Move → Option SessionFailure
  | .task .eventLoop =>
    if s.loop = .selecting ∧ s.cancelled = false then s.alarms.queue.head? else none
  | _ => none

/-- The kind of the event whose write succeeds in a move. -/
def forwards? (s : Session) (e : Surroundings) : Move → Option ResourceKind
  | .task (.runner id) => (s.runners[id]?).bind fun r =>
    if r.outcome? s.outlet e.now = some true then some r.kind else none
  | _ => none

/-- How a move changes the counts, and what they count of the session. -/
structure Balances (s : Session) (e : Surroundings) (m : Move) (s' : Session) (e' : Surroundings) :
    Prop where
  total : e'.metrics.sessionsTotal = e.metrics.sessionsTotal
  sessions : e'.metrics.sessionsActive + (if s'.isClosed then 1 else 0) =
    e.metrics.sessionsActive + (if s.isClosed then 1 else 0)
  active : e'.metrics.subscriptionsActive + s.runners.countP Runner.isActive =
    e.metrics.subscriptionsActive + s'.runners.countP Runner.isActive
  forwarded : ∀ k, e'.metrics.forwarded.get k =
    e.metrics.forwarded.get k + if s.forwards? e m = some k then 1 else 0
  failed : ∀ k, e'.metrics.runnerFailures.get k + s.runners.countP (Runner.isFailedOf k) =
    e.metrics.runnerFailures.get k + s'.runners.countP (Runner.isFailedOf k)
  errors : e'.metrics.sessionErrors = (s.leavesFor? m).elim e.metrics.sessionErrors
    fun f => Metrics.increment f.category e.metrics.sessionErrors

namespace Balances

/-- Where the counts grow by what becomes of the runners, and no session is closed or fails. -/
theorem of_grows {active : Int} {forwarded failed : ResourceKind → Nat}
    (grows : e.metrics.Grows e'.metrics active forwarded failed)
    (closed : s'.isClosed = s.isClosed)
    (gauge : (s'.runners.countP Runner.isActive : Int) = s.runners.countP Runner.isActive + active)
    (delivers : ∀ k, forwarded k = if s.forwards? e m = some k then 1 else 0)
    (fails : ∀ k, s'.runners.countP (Runner.isFailedOf k) =
      s.runners.countP (Runner.isFailedOf k) + failed k)
    (calm : s.leavesFor? m = none) : s.Balances e m s' e' where
  -- The counters grow by what the move does, so that they stay even with it.
  total := grows.total
  sessions := by rw [grows.sessions, closed]
  active := by
    have := grows.active
    omega
  forwarded k := by rw [grows.forwarded, delivers]
  failed k := by
    have := grows.failed k
    have := fails k
    omega
  errors := by rw [grows.errors, calm, Option.elim_none]

/-- Where nothing is counted, and the runners do the same. -/
theorem quiet (metrics : e'.metrics = e.metrics) (closed : s'.isClosed = s.isClosed)
    (runners : s'.runners.map Runner.core = s.runners.map Runner.core)
    (silent : s.forwards? e m = none) (calm : s.leavesFor? m = none) : s.Balances e m s' e' := by
  -- Nothing is counted, and the runners are what they were.
  have grows : e.metrics.Grows e'.metrics 0 (fun _ => 0) (fun _ => 0) := metrics ▸ .refl e.metrics
  refine .of_grows grows closed ?_ (fun k => ?_) (fun k => ?_) calm
  · rw [countP_of_core (fun _ => rfl) runners, Int.add_zero]
  · simp [silent]
  · exact countP_of_core (fun _ => rfl) runners

end Balances

/-- A session that has just started is not closed. -/
theorem Begins.isClosed (begins : Begins s) : s.isClosed = false := by
  cases begins <;> rfl

/-- A session that goes on without a step of a teardown is not closed by that. -/
theorem Ongoing.isClosed (on : Ongoing s s') : s'.isClosed = s.isClosed := by
  unfold Session.isClosed
  -- Its state is the same, or goes on to closing, which is neither the last one nor behind that.
  rcases on.state with same | ⟨next, -⟩
  · rw [same]
  · rw [next]
    cases s.state <;> rfl

/-- Stopping the runners from outside counts off those that have begun. -/
theorem abortRunners_grows (numbered : s.Numbered) (e : Surroundings) :
    e.metrics.Grows (s.abortRunners e).2.metrics
      (((s.abortRunners e).1.runners.countP Runner.isActive : Int) -
        s.runners.countP Runner.isActive) (fun _ => 0) (fun _ => 0) ∧
    ∀ k, (s.abortRunners e).1.runners.countP (Runner.isFailedOf k) =
      s.runners.countP (Runner.isFailedOf k) := by
  -- They are stopped one by one, and what they have been to the counts up to then adds up.
  refine abortRunners_keeps
    (P := fun t x => e.metrics.Grows x.metrics ((t.runners.countP Runner.isActive : Int) -
        s.runners.countP Runner.isActive) (fun _ => 0) (fun _ => 0) ∧
      ∀ k, t.runners.countP (Runner.isFailedOf k) = s.runners.countP (Runner.isFailedOf k))
    numbered ⟨?_, fun _ => rfl⟩ ?_
  · rw [Int.sub_self]
    exact .refl e.metrics
  · intro t x r found held
    obtain ⟨grown, failed⟩ := held
    obtain ⟨grows, same⟩ := r.abort_grows t.outlet x
    -- The runner that is stopped stands in its own place.
    have active := countP_set_add Runner.isActive (r.abort t.outlet x).1 found
    refine ⟨?_, fun k => ?_⟩
    · have all := grown.trans grows
      have sum : ((t.abortRunner x r).1.runners.countP Runner.isActive : Int) -
          s.runners.countP Runner.isActive =
          (t.runners.countP Runner.isActive : Int) - s.runners.countP Runner.isActive +
            ((r.abort t.outlet x).1.gauge - r.gauge) := by
        rw [Runner.gauge_eq, Runner.gauge_eq]
        simp only [abortRunner]
        omega
      rw [sum]
      exact all
    · have fails := countP_set_add (Runner.isFailedOf k) (r.abort t.outlet x).1 found
      rw [← Runner.failures_eq, ← Runner.failures_eq, same] at fails
      exact (Nat.add_right_cancel fails).trans (failed k)

/-- The counts in a step of the event loop. -/
theorem LoopSteps.balances (numbered : s.Numbered) (moved : s.LoopSteps e s' e') :
    s.Balances e (.task .eventLoop) s' e' := by
  have closed := (moved.ongoing numbered).isClosed
  have quiet (metrics : e'.metrics = e.metrics)
      (runners : s'.runners.map Runner.core = s.runners.map Runner.core)
      (calm : s.leavesFor? (.task .eventLoop) = none) : s.Balances e (.task .eventLoop) s' e' :=
    .quiet metrics closed runners rfl calm
  -- The loop counts a failure it leaves for; it counts runners off only when it stops them itself.
  cases moved with
  | told _ told =>
    exact quiet rfl (leave_work s s.alarms .away e.now).runners (by simp [leavesFor?, told])
  | @failed f rest selects untold alarm =>
    -- The failure is counted, and nothing else is.
    have runners := (leave_work s { s.alarms with queue := rest } (.ofFailure f) e.now).runners
    have active := countP_of_core (p := Runner.isActive) (fun _ => rfl) runners
    refine ⟨rfl, by rw [closed]; rfl, ?_, fun _ => rfl, fun k => ?_, ?_⟩
    · rw [active]
      rfl
    · rw [countP_of_core (fun _ => rfl) runners]
      rfl
    · simp [leavesFor?, selects, untold, alarm, Surroundings.count, Metrics.sessionFailed]
  | @dispatched request rest _ _ calm _ =>
    exact quiet rfl (dispatch_dispatches _ request).runners (by simp [leavesFor?, calm])
  | ended _ _ calm _ _ =>
    exact quiet rfl (leave_work s s.alarms s.closeCode e.now).runners (by simp [leavesFor?, calm])
  | reaped _ _ calm _ _ _ => exact quiet rfl (reap_work s _).runners (by simp [leavesFor?, calm])
  | wrote answers _ => exact quiet rfl rfl (by simp [leavesFor?, answers])
  | @answered m stage o' ok f start answers _ =>
    have calm : s.leavesFor? (.task .eventLoop) = none := by simp [leavesFor?, answers]
    cases start with
    | none => exact quiet rfl rfl calm
    | some due =>
      -- The runner that is started has not begun.
      refine .of_grows (.refl e.metrics) closed ?_ (fun _ => rfl) (fun k => ?_) calm
      · simp [acknowledged, spawn, Runner.isActive, Runner.new]
      · simp [acknowledged, spawn, Runner.isFailedOf, Runner.hasFailed, Runner.new]
  | drained drains _ => exact quiet rfl rfl (by simp [leavesFor?, drains])
  | aborted drains _ =>
    obtain ⟨grows, failed⟩ := abortRunners_grows numbered e
    refine .of_grows grows closed ?_ (fun _ => rfl) failed (by simp [leavesFor?, drains])
    show ((s.abortRunners e).1.runners.countP Runner.isActive : Int) = _
    omega

/-- The counts in a step of a runner. -/
theorem balances_of_ran {id : Nat} {r r' : Runner} {o : Outlet} {f : Option SessionFailure}
    (found : s.runners[id]? = some r)
    (steps : r.Steps s.outlet e s.credentials (r.cancelled || s.cancelled) (r', o, e', f)) :
    s.Balances e (.task (.runner id))
      { s with outlet := o, runners := s.runners.set id r', alarms := s.alarms.reportAny f }
        e' := by
  refine .of_grows steps.grows rfl ?_ (fun k => ?_) (fun k => ?_) rfl
  · -- The other runners of the session stand as they are.
    have active := countP_set_add Runner.isActive r' found
    rw [Runner.gauge_eq, Runner.gauge_eq]
    show ((s.runners.set id r').countP Runner.isActive : Int) = _
    omega
  · -- What it has delivered is the event whose write succeeds.
    simp only [Runner.deliveries, forwards?, found, Option.bind_some]
    split <;> rename_i delivers <;> split <;> simp_all
  -- The runner has failed in this step, if it has failed at all.
  · have fails := countP_set_add (Runner.isFailedOf k) r' found
    rw [← Runner.failures_eq, ← Runner.failures_eq,
      Runner.failures_of_not (Runner.hasFailed_of_running steps.running)] at fails
    exact fails

/-- The counts in a step of a call that tears the session down: the one that ends the closing counts
the session off. -/
theorem TeardownSteps.balances {call : Nat}
    (closing : s.works call = true → s.state = .closing) (moved : s.TeardownSteps e call s' e') :
    s.Balances e (.task (.teardown call)) s' e' := by
  cases moved with
  | @closed code stage o' ok f there _ =>
    -- Only the first call works, so the session is not closed before and is counted off once.
    have before : s.state = .closing := by
      refine closing ?_
      simp [works, there, TeardownPhase.isWork]
    have open_ : s.isClosed = false := by simp [isClosed, before]
    have shut : ({ s with outlet := o', state := s.state.advance .closed }.setTeardown call
        .finished).isClosed = true := by
      simp [isClosed, setTeardown, before, SessionState.advance, SessionState.next?]
    refine ⟨rfl, ?_, rfl, fun _ => rfl, fun _ => rfl, rfl⟩
    rw [open_, shut]
    simp [Surroundings.count, Metrics.sessionClosed]
  | _ => exact .quiet rfl rfl rfl rfl rfl

/-- The counts in every move that is not made by others. -/
theorem Moves.balances (numbered : s.Numbered)
    (closing : ∀ call, s.works call = true → s.state = .closing)
    (own : ∀ env, m ≠ .outside env) (moved : s.Moves e m s' e') : s.Balances e m s' e' := by
  -- Who begins a teardown tells that the session closes, which is counted where it is done.
  cases moved with
  | looped steps => exact steps.balances numbered
  | ran found steps => exact balances_of_ran found steps
  | closed steps => exact steps.balances (closing _)
  | called _ =>
    refine .quiet rfl ?_ rfl rfl rfl
    show (s.state.advance .closing == .closed) = (s.state == .closed)
    cases s.state <;> rfl
  | passed => exact absurd rfl (own e')
  | _ => exact .quiet rfl rfl rfl rfl rfl

/-- The counts in every move of a run. -/
theorem Run.balances {past : List Occasion} (begins : Begins s₀) (run : Run s₀ e₀ past s e)
    (own : ∀ env, m ≠ .outside env) (moved : s.move e m = some (s', e')) :
    s.Balances e m s' e' := by
  -- Whoever works finds the session closing, so that it is closed only once.
  obtain ⟨sound, settled⟩ := run.settled begins
  exact (move_moves moved).balances sound.numbered
    (fun call works => ((run.lived begins).first_of_works settled works).2) own

/-- The event loop leaves its loop for a failure only once. -/
theorem Moves.left_for (numbered : s.Numbered) (moved : s.Moves e m s' e') :
    (s.loop.isOpen = false → s'.loop.isOpen = false ∧ s.leavesFor? m = none) ∧
    (s.leavesFor? m ≠ none → s'.loop.isOpen = false) := by
  constructor
  · -- A loop that has left its loop selects nothing any more, and does not come back.
    intro left
    have calm : s.leavesFor? m = none := by
      unfold leavesFor?
      split
      · exact if_neg fun selects => by simp [selects.1, LoopPhase.isOpen] at left
      · rfl
    refine ⟨?_, calm⟩
    cases moved.course numbered with
    | stays phase _ _ _ => exact phase.trans left
    | leaves _ _ gone _ _ =>
      obtain ⟨deadline, drains⟩ := gone
      simp [drains, LoopPhase.isOpen]
  · -- Of all steps only the one that takes a failure leaves for one.
    intro leaves
    cases moved with
    | looped steps =>
      cases steps with
      | told _ told => simp [leavesFor?, told] at leaves
      | failed _ _ _ => rfl
      | dispatched _ _ calm _ | ended _ _ calm _ _ | reaped _ _ calm _ _ _ =>
        simp [leavesFor?, calm] at leaves
      | wrote phase _ | answered phase _ | drained phase _ | aborted phase _ =>
        simp [leavesFor?, phase] at leaves
    | _ => exact absurd rfl leaves

end Session

end WatchRelay
