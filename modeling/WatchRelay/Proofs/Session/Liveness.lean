import WatchRelay.Proofs.Session.Intake
import WatchRelay.Proofs.Session.Ticks

/-! A client that answers its pings in time does not count as gone, and one that counts as gone was
pinged while it was silent. -/

namespace WatchRelay

namespace Receiver

variable {r : Receiver} {now : Nat} {cancelled : Bool}

/-- Whether the receiver finds something when it looks: a frame, or the end of the stream. -/
def hasNews (r : Receiver) : Bool := !r.arrived.isEmpty || r.ended

/-- Whether the next step of receiving gives the client up because nothing has come for too long. -/
def losesClient (r : Receiver) (now : Nat) (cancelled : Bool) : Bool :=
  match r.step now cancelled with
  | some (_, some (.livenessTimeout _)) => true
  | _ => false

/-- A text that cannot be taken is no sign that the client is gone. -/
theorem fault_ofDecoded {most : Nat} {text : String} {f : SessionFailure}
    (means : meaning.ofDecoded (decode most text) = .fault f) (limit : Duration) :
    f ≠ .livenessTimeout limit := by
  -- A text fails by its length or by what the parser says of it.
  unfold decode at means
  split at means
  · cases means
    exact SessionFailure.noConfusion
  · cases parsed : Request.parse text <;> rw [parsed] at means <;> cases means
    exact SessionFailure.noConfusion

/-- A frame that cannot be taken is no sign that the client is gone. -/
theorem fault_of_meaning {most : Nat} {frame : InFrame} {f : SessionFailure}
    (means : meaning most frame = .fault f) (limit : Duration) : f ≠ .livenessTimeout limit := by
  -- Whatever is wrong with a frame, it is not that nothing came.
  cases frame with
  | text content => exact fault_ofDecoded means limit
  | binary bytes =>
    simp only [meaning] at means
    split at means
    · exact fault_ofDecoded means limit
    · cases means
      exact SessionFailure.noConfusion
  | failure chain =>
    cases means
    exact SessionFailure.noConfusion
  | ping | pong | close => cases means

/-- The client is given up only by a receiver that finds nothing when its deadline has come. -/
theorem silent_of_losesClient (loses : r.losesClient now cancelled = true) :
    cancelled = false ∧ r.hasNews = false ∧
      ∃ deadline, r.phase = .reading deadline ∧ deadline ≤ now := by
  unfold losesClient at loses
  split at loses
  · next limit moved =>
    cases step_steps moved with
    | failed _ _ _ means => exact absurd rfl (fault_of_meaning means limit)
    | lost reads untold empty late =>
      refine ⟨untold, ?_, _, reads, late⟩
      -- The end of the stream would have been noticed first.
      cases hungUp : r.ended with
      | false => simp [hasNews, empty, hungUp]
      | true => simp [step, reads, untold, empty, hungUp] at moved
  · cases loses

/-- A receiver that waits has found nothing, and its deadline is still to come. -/
theorem quiet_of_waiting {deadline : Nat} (reads : r.phase = .reading deadline)
    (still : r.step now false = none) : r.hasNews = false ∧ now < deadline := by
  cases arrived : r.arrived with
  | cons frame rest =>
    -- A frame is read at once, whatever it means.
    cases means : meaning r.maxMessageSize frame <;>
      simp [step, reads, arrived, means] at still
  | nil =>
    cases hungUp : r.ended with
    | true => simp [step, reads, arrived, hungUp] at still
    | false =>
      refine ⟨by simp [hasNews, arrived, hungUp], ?_⟩
      simpa [step, reads, arrived, hungUp] using still

end Receiver

/-- Pings are further apart than nothing and nearer than the time a client may be silent. -/
theorem Settings.timing_of_valid {settings : Settings} (valid : settings.conflict? = none) :
    0 < (Config.ofSettings settings).pingInterval ∧
      (Config.ofSettings settings).pingInterval < (Config.ofSettings settings).livenessTimeout := by
  -- The settings are checked for both before anything else.
  unfold Settings.conflict? at valid
  dsimp only at valid
  split at valid
  · cases valid
  · next timed =>
    split at valid
    · cases valid
    · next slower =>
      simp only [Config.ofSettings]
      omega

namespace Session

variable {s s' s₀ : Session} {e e' e₀ : Surroundings} {past : List Occasion} {m : Move}

/-- Whether the receiver gives the client up. -/
def Occasion.losesClient (o : Occasion) : Bool :=
  match o.move with
  | .task .receiver => o.session.receiver.losesClient o.env.now o.session.cancelled
  | _ => false

/-- Whether each ping whose answer is due by now was answered: a frame arrived less than so many
milliseconds after it. -/
def Answers (within : Nat) (past : List Occasion) (s : Session) (now : Nat) : Prop :=
  ∀ moment, KeepAlive.pingAt moment ∈ s.outlet.log → moment + within ≤ now →
    ∃ o ∈ past, o.arrival?.isSome = true ∧ moment ≤ o.env.now ∧
      o.env.now < moment + within

/-- Whether a ping is written at a moment, or still to be. -/
def Pings (s : Session) (now moment : Nat) : Prop :=
  s.keepAlive.WillPing now moment ∨ KeepAlive.pingAt moment ∈ s.outlet.log

/-- How long the receiver may be silent is always the same. -/
theorem ReceiverMoves.liveness {r : Receiver} (moved : s.ReceiverMoves e m r) :
    r.liveness = s.receiver.liveness := by
  -- The time limit is set at the start and never changed.
  cases moved with
  | stepped steps => cases steps <;> rfl
  | arrived frame => simp only [Receiver.arrive]; split <;> rfl
  | aborted call => simp only [Receiver.abort]; split <;> rfl
  | _ => rfl

/-- A receiver that waits for a frame has just begun to wait, or it has waited before and nothing
that came is lost. -/
theorem ReceiverMoves.reading {r : Receiver} {deadline : Nat} (moved : s.ReceiverMoves e m r)
    (reads : r.phase = .reading deadline) :
    deadline = e.now + s.receiver.liveness ∨
      s.receiver.phase = .reading deadline ∧
        (s.receiver.hasNews = true ∨ (Occasion.arrival? ⟨s, e, m⟩).isSome = true →
          r.hasNews = true) := by
  have same {m : Move} (silent : Occasion.arrival? ⟨s, e, m⟩ = none) :
      s.receiver.hasNews = true ∨ (Occasion.arrival? ⟨s, e, m⟩).isSome = true →
        s.receiver.hasNews = true := fun news => news.resolve_right (by simp [silent])
  cases moved with
  | stepped steps =>
    -- A step that leads to waiting is one that begins to wait.
    cases steps with
    | noticed _ _ _ _ => exact .inl (ReceivePhase.reading.inj reads).symm
    | handed _ _ _ _ => exact .inl (ReceivePhase.reading.inj reads).symm
    | _ => cases reads
  | arrived frame =>
    have phase : (s.receiver.arrive frame).phase = s.receiver.phase := by
      unfold Receiver.arrive
      split <;> rfl
    rw [phase] at reads
    refine .inr ⟨reads, fun _ => ?_⟩
    -- The frame is kept, unless the stream has ended before it.
    cases ended : s.receiver.ended <;>
      simp [Receiver.arrive, Receiver.isRunning, reads, Receiver.hasNews, ended]
  | hungUp => exact .inr ⟨reads, fun _ => by simp [Receiver.hasNews, Receiver.hangUp]⟩
  | took _ _ => exact .inr ⟨reads, same rfl⟩
  | closed _ => exact .inr ⟨reads, same rfl⟩
  | aborted call =>
    unfold Receiver.abort at reads ⊢
    split at reads
    · cases reads
    · next ended => simp [Receiver.isRunning, reads] at ended
  | stayed silent _ _ => exact .inr ⟨reads, same silent⟩

/-- A write does not fail on a transport that takes every frame at once while the write half is
there. -/
theorem not_failsWrite (prompt : s.outlet.wire.IsPrompt) (there : s.outlet.writable = true) :
    Occasion.failsWrite ⟨s, e, m⟩ = false := by
  -- A write to a prompt transport is done at once.
  unfold Occasion.failsWrite
  split
  · split
    · split
      · next moved => simp [Outlet.done_of_prompt prompt there moved]
      · rfl
    · rfl
  · rfl

/-- How a move leaves the connection of a session that goes on behind it.

The write half is kept, and the transport behaves as before or as it is told to.
Keep-alive takes a step of its own, or is left as it is. -/
structure Upholds (s : Session) (e : Surroundings) (m : Move) (s' : Session) : Prop where
  writable : s'.outlet.writable = true
  wire : s'.outlet.wire = s.outlet.wire ∨ m = .wire s'.outlet.wire
  keepAlive : s'.keepAlive = s.keepAlive ∨
    ∃ f, s.keepAlive.Steps s.outlet e.now false s'.keepAlive s'.outlet f

/-- A step of the event loop leaves the transport as it is. -/
theorem LoopSteps.wire (numbered : s.Numbered) (moved : s.LoopSteps e s' e') :
    s'.outlet.wire = s.outlet.wire := by
  -- The loop writes on the transport, and does nothing else to it.
  cases moved with
  | told _ _ => exact congrArg _ (leave_work s s.alarms .away e.now).outlet
  | failed _ _ _ => exact congrArg _ (leave_work s _ _ e.now).outlet
  | dispatched _ _ _ _ =>
    exact (dispatch_dispatches _ _).keeps (fun t => t.outlet.wire)
      (fun t kind => congrArg _ (t.release_work kind).outlet) fun _ _ _ => rfl
  | ended _ _ _ _ _ => exact congrArg _ (leave_work s s.alarms s.closeCode e.now).outlet
  | reaped _ _ _ _ _ _ => rfl
  | wrote _ writes => exact (WriteSide.Deed.of_stepWrite writes).wire
  | @answered _ _ _ _ _ start _ writes =>
    cases start <;> exact (WriteSide.Deed.of_stepWrite writes).wire
  | drained _ _ => rfl
  | aborted _ _ => exact abortRunners_outlet Outlet.wire (fun _ _ => rfl) numbered e

/-- Every move upholds the connection of a session that goes on behind it, on a transport that takes
every frame at once. -/
theorem Moves.upholds (settled : s.Settled) (sound : s.Sound) (moved : s.Moves e m s' e')
    (prompt : s.outlet.wire.IsPrompt) (there : s.outlet.writable = true)
    (untold : s'.cancelled = false) : s.Upholds e m s' := by
  have before : s.cancelled = false := by
    cases told : s.cancelled with
    | false => rfl
    | true => rw [moved.cancelled sound.numbered told] at untold; cases untold
  -- Nobody has called for the end of a session that was not told to end.
  have alone : s.teardowns = [] := by
    by_contra called
    rw [settled.called called] at before
    cases before
  have writable : s'.outlet.writable = true := by
    rcases moved.writable sound.numbered with same | fails | called
    · exact same.trans there
    · rw [not_failsWrite prompt there] at fails
      cases fails
    · exact absurd alone called
  cases moved with
  | looped steps =>
    exact ⟨writable, .inl (steps.wire sound.numbered), .inl (steps.keepAlive sound.numbered)⟩
  | keptAlive steps => exact ⟨writable, .inl steps.deed.wire, .inr ⟨_, before ▸ steps⟩⟩
  | ran _ steps => exact ⟨writable, .inl steps.deed.wire, .inl rfl⟩
  | closed steps =>
    cases steps <;> simp_all [teardown?]
  | rewired wire => exact ⟨writable, .inr rfl, .inl rfl⟩
  | _ => exact ⟨writable, .inl rfl, .inl rfl⟩

/-- The window in which the receiver waits for a frame: every frame that came since it began is
still to be read, and a ping is written within its first interval. -/
structure Window (past : List Occasion) (s : Session) (now since deadline : Nat) : Prop where
  length : deadline = since + s.receiver.liveness
  begun : since ≤ now
  lasts : now ≤ deadline
  unread : ∀ o ∈ past, o.arrival?.isSome = true → since < o.env.now →
    s.receiver.hasNews = true
  pinged : ∃ moment, since < moment ∧ moment ≤ since + s.keepAlive.interval ∧
    s.Pings now moment

/-- What holds of a session that goes on, along a timely run on a transport that takes every frame
at once: it has its write half, keep-alive is on time, and the receiver waits in a window. -/
structure Attentive (past : List Occasion) (s : Session) (now interval liveness : Nat) : Prop where
  prompt : s.outlet.wire.IsPrompt
  writable : s.outlet.writable = true
  interval : s.keepAlive.interval = interval
  liveness : s.receiver.liveness = liveness
  onTime : s.keepAlive.IsOnTime now
  window : ∀ deadline, s.receiver.phase = .reading deadline →
    ∃ since, Window past s now since deadline

namespace Attentive

variable {now later interval liveness : Nat}

/-- What is no arrival does not matter to the window. -/
theorem concat (attentive : Attentive past s now interval liveness) {o : Occasion}
    (silent : o.arrival? = none) : Attentive (past ++ [o]) s now interval liveness := by
  -- Nothing has arrived at the new occasion, so nothing of it is unread.
  refine { attentive with window := fun deadline reads => ?_ }
  obtain ⟨since, window⟩ := attentive.window deadline reads
  refine ⟨since, { window with unread := Run.forall_concat window.unread ?_ }⟩
  simp [silent]

/-- Time that passes where the receiver and keep-alive wait, and not beyond their deadlines, leaves
the session attentive. -/
theorem wait (attentive : Attentive past s now interval liveness) (sound : s.Sound)
    (untold : s.cancelled = false) (passes : s.Passes now later) :
    Attentive past s later interval liveness := by
  have received := passes.received
  have pinged := passes.pinged
  rw [untold] at received pinged
  -- No ping is on its way, since every write is complete.
  have idle (next : Nat) (stage : WriteStage) : s.keepAlive.phase ≠ .pinging next stage := by
    intro phase
    refine sound.unwritten (passes.written untold) .keepAlive .ping stage ?_
    simp [errand, KeepAlive.errand?, phase]
  obtain ⟨onTime, pings⟩ := attentive.onTime.wait idle pinged passes.forward
    fun d member => passes.met d (List.mem_append_right _ (Option.mem_toList.mpr member))
  refine { attentive with onTime, window := fun deadline reads => ?_ }
  obtain ⟨since, window⟩ := attentive.window deadline reads
  obtain ⟨-, ahead⟩ := Receiver.quiet_of_waiting reads received
  have lasts : later ≤ deadline :=
    passes.met deadline (by simp [Receiver.deadline?, reads]) ahead
  obtain ⟨moment, behind, near, ping⟩ := window.pinged
  exact ⟨since, window.length, window.begun.trans passes.forward, lasts, window.unread, moment,
    behind, near, ping.imp_left (pings moment)⟩

/-- A move that takes no time leaves the session attentive, unless the session is told to end. -/
theorem act (attentive : Attentive past s e.now interval liveness) (settled : s.Settled)
    (sound : s.Sound) (ticks : 0 < interval) (before : ∀ o ∈ past, o.env.now ≤ e.now)
    (timely : Occasion.IsTimely ⟨s, e, m⟩) (moved : s.Moves e m s' e')
    (untold : s'.cancelled = false) :
    Attentive (past ++ [⟨s, e, m⟩]) s' e.now interval liveness := by
  have upholds := moved.upholds settled sound attentive.prompt attentive.writable untold
  have receives := moved.receiver sound.numbered
  have prompt : s'.outlet.wire.IsPrompt := by
    rcases upholds.wire with same | told
    · rw [same]
      exact attentive.prompt
    · subst told
      exact timely
  -- Keep-alive stays on time, and every ping that was to be written is written or still to be.
  obtain ⟨onTime, same, pings⟩ : s'.keepAlive.IsOnTime e.now ∧
      s'.keepAlive.interval = s.keepAlive.interval ∧
      ∀ moment, s.Pings e.now moment → s'.Pings e.now moment := by
    rcases upholds.keepAlive with same | ⟨f, steps⟩
    · exact ⟨same ▸ attentive.onTime, congrArg _ same,
        fun moment => .imp (fun still => same ▸ still) (moved.log sound.numbered)⟩
    · obtain ⟨onTime, pings⟩ := attentive.onTime.step attentive.prompt attentive.writable steps
      exact ⟨onTime, steps.interval, fun moment ping =>
        ping.elim (pings moment) fun noted => .inr (moved.log sound.numbered noted)⟩
  refine ⟨prompt, upholds.writable, same.trans attentive.interval,
    receives.liveness.trans attentive.liveness, onTime, fun deadline reads => ?_⟩
  rcases receives.reading reads with fresh | ⟨waited, news⟩
  · -- A window that begins now has no frames behind its begin, and the next ping falls into it.
    obtain ⟨moment, behind, near, ping⟩ :=
      onTime.willPing (by rw [same, attentive.interval]; exact ticks)
    refine ⟨e.now, fresh.trans (by rw [receives.liveness]), Nat.le_refl _, by omega, ?_, moment,
      behind, near, .inl ping⟩
    refine Run.forall_concat (fun o member _ late => ?_) fun _ late => ?_
    · exact absurd late (Nat.not_lt.mpr (before o member))
    · exact absurd late (Nat.lt_irrefl _)
  · obtain ⟨since, window⟩ := attentive.window deadline waited
    -- The window goes on, and what has come since it began is still unread.
    obtain ⟨moment, behind, near, ping⟩ := window.pinged
    refine ⟨since, window.length.trans (by rw [receives.liveness]), window.begun, window.lasts,
      ?_, moment, behind, by rw [same]; exact near, pings moment ping⟩
    exact Run.forall_concat (fun o member came late =>
      news (.inl (window.unread o member came late)))
      fun came _ => news (.inr came)

/-- An attentive session that gives the client up has had no frame since the window began, and has
pinged the client in its first interval. -/
theorem pinged_of_loses (attentive : Attentive past s e.now interval liveness)
    (slower : interval < liveness) (loses : Occasion.losesClient ⟨s, e, m⟩ = true) :
    ∃ since, e.now = since + liveness ∧
      (∀ o ∈ past, o.arrival?.isSome = true → o.env.now ≤ since) ∧
      ∃ moment, since < moment ∧ moment ≤ since + interval ∧
        KeepAlive.pingAt moment ∈ s.outlet.log := by
  unfold Occasion.losesClient at loses
  split at loses
  · obtain ⟨-, quiet, deadline, reads, late⟩ := Receiver.silent_of_losesClient loses
    obtain ⟨since, window⟩ := attentive.window deadline reads
    have length := window.length
    have lasts := window.lasts
    rw [attentive.liveness] at length
    have now : e.now = since + liveness :=
      Nat.le_antisymm (lasts.trans_eq length) (length.symm.trans_le late)
    refine ⟨since, now, ?_, ?_⟩
    · intro o member came
      by_contra behind
      have news := window.unread o member came (Nat.lt_of_not_le behind)
      rw [quiet] at news
      cases news
    · obtain ⟨moment, behind, near, ping⟩ := window.pinged
      rw [attentive.interval] at near
      -- The window is longer than an interval, so its first ping is not still to come.
      refine ⟨moment, behind, near, ping.resolve_left fun still => ?_⟩
      have ahead := attentive.onTime.le_of_willPing still
      omega
  · cases loses

end Attentive

/-- A session that has just started is attentive. -/
theorem Begins.attentive (begins : Begins s₀) (prompt : s₀.outlet.wire.IsPrompt)
    (ticks : 0 < s₀.config.pingInterval) :
    Attentive [] s₀ s₀.startTime s₀.config.pingInterval s₀.config.livenessTimeout := by
  obtain ⟨there, keepAlive, liveness, phase⟩ : s₀.outlet.writable = true ∧
      s₀.keepAlive = .new s₀.startTime s₀.config.pingInterval ∧
      s₀.receiver.liveness = s₀.config.livenessTimeout ∧
      s₀.receiver.phase = .reading (s₀.startTime + s₀.config.livenessTimeout) := by
    cases begins <;> exact ⟨rfl, rfl, rfl, rfl⟩
  have onTime : s₀.keepAlive.IsOnTime s₀.startTime :=
    keepAlive ▸ KeepAlive.isOnTime_new (Nat.pos_iff_ne_zero.mp ticks) _
  have interval : s₀.keepAlive.interval = s₀.config.pingInterval := by
    rw [keepAlive]
    unfold KeepAlive.new
    split <;> rfl
  refine ⟨prompt, there, interval, liveness, onTime, fun deadline reads => ?_⟩
  -- The first window begins with the session.
  obtain ⟨moment, behind, near, ping⟩ := onTime.willPing (interval ▸ ticks)
  obtain rfl : s₀.startTime + s₀.config.livenessTimeout = deadline := by
    simpa [phase] using reads
  exact ⟨s₀.startTime, by rw [liveness], Nat.le_refl _, Nat.le_add_right _ _, by simp, moment,
    behind, near, .inl ping⟩

/-- Along a timely run on a transport that takes every frame at once, a session is attentive until
it is told to end. -/
theorem Run.attentive (begins : Begins s₀) (started : s₀.startTime = e₀.now)
    (prompt : s₀.outlet.wire.IsPrompt) (ticks : 0 < s₀.config.pingInterval)
    (run : Run s₀ e₀ past s e) (timely : ∀ o ∈ past, o.IsTimely)
    (untold : s.cancelled = false) :
    Attentive past s e.now s₀.config.pingInterval s₀.config.livenessTimeout := by
  -- What is attended to is kept by each occasion, as long as the session goes on.
  refine run.keeps_along
    (P := fun past t x => (∀ o ∈ past, o.IsTimely) → t.cancelled = false →
      Attentive past t x.now s₀.config.pingInterval s₀.config.livenessTimeout)
    (fun _ _ => started ▸ begins.attentive prompt ticks) ?_ timely untold
  intro past t t' x x' m run moved held timely untold
  obtain ⟨earlier, last⟩ := List.forall_mem_append.mp timely
  have last := last _ (List.mem_singleton_self _)
  obtain ⟨sound, settled⟩ := run.settled begins
  have moves := move_moves moved
  have before : t.cancelled = false := by
    cases told : t.cancelled with
    | false => rfl
    | true => rw [moves.cancelled sound.numbered told] at untold; cases untold
  have attentive := held earlier before
  by_cases outside : ∃ env, m = .outside env
  · -- Time stands still, or it passes where everything of interest has had its turn.
    obtain ⟨env, rfl⟩ := outside
    cases moves
    rcases last with same | passes
    · exact (same.symm ▸ attentive).concat rfl
    · exact (attentive.wait sound before passes).concat rfl
  · rw [moves.now sound.numbered fun env same => outside ⟨env, same⟩]
    exact attentive.act settled sound ticks (run.ordered begins earlier).2 last moves untold

/-- Only a session that goes on gives its client up. -/
theorem untold_of_loses {o : Occasion} (loses : o.losesClient = true) :
    o.session.cancelled = false := by
  -- The client is lost by the receiver, which then was not told to stop.
  unfold Occasion.losesClient at loses
  split at loses
  · exact (Receiver.silent_of_losesClient loses).1
  · cases loses

/-- A client that answers each ping in time is never given up.

The settings are sound, and the transport takes every frame at once.
In time is less than the liveness timeout less the ping interval after the ping.
It makes no difference what else the client sends and who keeps the receiver from reading.

A client that is given up has sent nothing since the window began.
It was pinged within the first interval of the window. -/
theorem answering_client_is_kept {settings : Settings} (valid : settings.conflict? = none)
    (begins : Begins s₀) (config : s₀.config = Config.ofSettings settings)
    (started : s₀.startTime = e₀.now) (prompt : s₀.outlet.wire.IsPrompt)
    (run : Run s₀ e₀ past s e)
    (timely : ∀ o ∈ past, o.IsTimely) :
    let c := Config.ofSettings settings
    (Answers (c.livenessTimeout - c.pingInterval) past s e.now →
      ∀ o ∈ past, o.losesClient = false) ∧
    ∀ before o after, past = before ++ o :: after → o.losesClient = true →
      ∃ since, o.env.now = since + c.livenessTimeout ∧
        (∀ q ∈ before, q.arrival?.isSome = true → q.env.now ≤ since) ∧
        ∃ moment, since < moment ∧ moment ≤ since + c.pingInterval ∧
          KeepAlive.pingAt moment ∈ o.session.outlet.log := by
  intro c
  obtain ⟨ticks, slower⟩ : 0 < c.pingInterval ∧ c.pingInterval < c.livenessTimeout :=
    Settings.timing_of_valid valid
  have lost : ∀ before o after, past = before ++ o :: after → o.losesClient = true →
      ∃ since, o.env.now = since + c.livenessTimeout ∧
        (∀ q ∈ before, q.arrival?.isSome = true → q.env.now ≤ since) ∧
        ∃ moment, since < moment ∧ moment ≤ since + c.pingInterval ∧
          KeepAlive.pingAt moment ∈ o.session.outlet.log := by
    rintro before o after rfl loses
    obtain ⟨s₁, e₁, first, moved, -⟩ := run.split
    -- Only a session that goes on gives its client up, and until then it was attentive.
    have attentive := first.attentive begins started prompt (by rw [config]; exact ticks)
      (fun q member => timely q (List.mem_append_left _ member)) (untold_of_loses loses)
    rw [config] at attentive
    exact attentive.pinged_of_loses slower loses
  refine ⟨fun answers o member => Bool.eq_false_iff.mpr fun loses => ?_, lost⟩
  obtain ⟨before, after, rfl⟩ := List.append_of_mem member
  obtain ⟨since, now, silent, moment, behind, near, noted⟩ := lost before o after rfl loses
  obtain ⟨s₁, e₁, first, moved, later⟩ := run.split
  have ⟨ordered, all⟩ := run.ordered begins timely
  -- The ping stays noted, and its answer was due when the client was given up.
  have stays : KeepAlive.pingAt moment ∈ s.outlet.log := by
    have moves := move_moves moved
    have sound := first.sound begins
    exact later.log (moves.sound sound) (moves.log sound.numbered noted)
  have due : moment + (c.livenessTimeout - c.pingInterval) ≤ o.env.now := by omega
  obtain ⟨q, among, came, since', inTime⟩ := answers moment stays (due.trans (all o member))
  rcases List.mem_append.mp among with earlier | behind'
  · -- A frame that had come by then has come since the window began.
    have := silent q earlier came
    omega
  · -- What came later came too late.
    rcases List.mem_cons.mp behind' with rfl | later'
    · omega
    · have := (List.pairwise_cons.mp (List.pairwise_append.mp ordered).2.1).1 q later'
      omega

/-- A session with the settings a relay has where none are given. -/
def unset : Session := .start (Config.ofSettings {}) default .clear 0 false

/-- Time passes up to a tick, and the client is pinged. -/
def pinging (moment : Nat) : List Move :=
  .outside (around moment) :: List.replicate 4 (.task .keepAlive)

/-- A client that answers its first ping at the last moment is kept, and one that never answers is
given up a millisecond later. -/
theorem answering_client_is_kept_late :
    (∃ past s e, Run unset (around 0) past s e ∧ Answers 10000 past s e.now ∧
      e.now = 15000 ∧
      ∀ o ∈ past, o.losesClient = false) ∧
    ∃ past o s e, Run unset (around 0) (past ++ [o]) s e ∧ o.losesClient = true ∧
      o.env.now = 15000 ∧ ∃ moment, 0 < moment ∧ moment ≤ 5000 ∧
        KeepAlive.pingAt moment ∈ o.session.outlet.log := by
  -- The default settings hold, so the two waits are those of the theorem.
  have valid : ({} : Settings).conflict? = none := by decide
  have start : Begins unset := .attended _ _ _ _ _
  have prompt : unset.outlet.wire.IsPrompt := by decide
  constructor
  -- One answer comes a moment before the window closes, in time for the first ping.
  · let moves := pinging 5000 ++ pinging 10000 ++
      [.outside (around 14999), .arrive .pong, .task .receiver] ++ pinging 15000
    have plays : ((play unset (around 0) moves).any fun p =>
        decide ((∀ o ∈ p.1, o.IsTimely) ∧ p.2.2.now = 15000 ∧
          p.2.1.outlet.log = #[KeepAlive.pingAt 5000, KeepAlive.pingAt 10000,
            KeepAlive.pingAt 15000] ∧
          ∃ o ∈ p.1, o.arrival?.isSome = true ∧ o.env.now = 14999)) = true := by
      decide +kernel
    obtain ⟨⟨past, s, e⟩, played, checked⟩ := (Option.any_eq_true _ _).mp plays
    obtain ⟨timely, now, log, o, member, came, late⟩ := of_decide_eq_true checked
    have now : e.now = 15000 := now
    have log : s.outlet.log = _ := log
    have run := Run.of_play played
    have answers : Answers 10000 past s e.now := by
      intro moment noted due
      -- Only the first of the three pings is due by now.
      have among : moment = 5000 ∨ moment = 10000 ∨ moment = 15000 := by
        simpa [log, KeepAlive.pingAt] using noted
      exact ⟨o, member, came, by omega, by omega⟩
    exact ⟨past, s, e, run, answers, now,
      (answering_client_is_kept valid start rfl rfl prompt run timely).1 answers⟩
  -- Nothing is answered, so the window since the start closes.
  · let moves := pinging 5000 ++ pinging 10000 ++ pinging 15000 ++ [.task .receiver]
    have plays : ((play unset (around 0) moves).any fun p =>
        decide ((∀ o ∈ p.1, o.IsTimely) ∧
          ∃ o ∈ p.1.getLast?, o.losesClient = true ∧ o.env.now = 15000)) = true := by
      decide +kernel
    obtain ⟨⟨past, s, e⟩, played, checked⟩ := (Option.any_eq_true _ _).mp plays
    obtain ⟨timely, o, last, loses, now⟩ := of_decide_eq_true checked
    obtain ⟨before, rfl⟩ : ∃ before, past = before ++ [o] := List.getLast?_eq_some_iff.mp last
    have run := Run.of_play played
    obtain ⟨since, length, -, moment, behind, near, noted⟩ :=
      (answering_client_is_kept valid start rfl rfl prompt run timely).2
        before o [] rfl loses
    have length : o.env.now = since + 15000 := length
    have near : moment ≤ since + 5000 := near
    exact ⟨before, o, s, e, run, loses, now, moment, by omega, by omega, noted⟩

end Session

end WatchRelay
