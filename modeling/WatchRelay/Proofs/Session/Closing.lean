import WatchRelay.Proofs.Session.Writers

/-! The end of a session: once it is closed, nothing is written on its connection any more. -/

namespace WatchRelay

/-- Whether a call has the closing of the connection still before it. -/
def TeardownPhase.isWork : TeardownPhase → Bool
  | .waiting _ | .closing _ _ => true
  | .watching _ | .finished => false

namespace Session

variable {s s' s₀ : Session} {e e' e₀ : Surroundings}

/-- Whether a call works on the closing of the connection. -/
def works (s : Session) (call : Nat) : Bool := (s.teardown? call).any TeardownPhase.isWork

/-- Whether a runner is told to stop: by itself, or because the session is told to end. -/
def isTold (s : Session) (r : Runner) : Bool := r.cancelled || s.cancelled

/-- How a session goes on while no call to tear it down does anything: it can only be told to
end. -/
structure Ongoing (s s' : Session) : Prop where
  teardowns : s'.teardowns = s.teardowns
  tornDown : s'.tornDown = s.tornDown
  told : s.cancelled = true → s'.cancelled = true
  state : s'.state = s.state ∨ s'.state = s.state.advance .closing ∧ s'.cancelled = true

namespace Ongoing

/-- What touches neither the calls nor the state is no step of a teardown. -/
theorem of_same (teardowns : s'.teardowns = s.teardowns) (tornDown : s'.tornDown = s.tornDown)
    (cancelled : s'.cancelled = s.cancelled) (state : s'.state = s.state) : Ongoing s s' :=
  ⟨teardowns, tornDown, fun told => cancelled.trans told, .inl state⟩

/-- Leaving the event loop tells the session to end. -/
theorem leave (s : Session) (alarms : Alarms) (code : CloseCode) (now : Nat) :
    Ongoing s ({ s with alarms, closeCode := code }.leave now) := by
  -- Telling the runners and the bounded wait touch neither the calls nor the end of a call.
  obtain ⟨cancelled, state, tornDown⟩ := foldl_release_loop ResourceKind.all
    { s with alarms, closeCode := code }.beginClosing
  exact ⟨(leave_work s alarms code now).teardowns, tornDown, fun _ => cancelled,
    .inr ⟨state, cancelled⟩⟩

end Ongoing

/-- No step of the event loop touches a teardown. -/
theorem LoopSteps.ongoing (numbered : s.Numbered) (moved : s.LoopSteps e s' e') :
    Ongoing s s' := by
  cases moved with
  | told _ _ => exact .leave s s.alarms .away e.now
  | failed _ _ _ => exact .leave s _ _ e.now
  | @dispatched request rest _ _ _ _ =>
    -- At most, the runner of a kind is told to stop.
    let taken := { s with receiver := { s.receiver with queue := rest } }
    have acts := taken.dispatch_dispatches request
    generalize taken.dispatch request = s' at acts
    cases acts with
    | ignored _ => exact .of_same rfl rfl rfl rfl
    | acknowledged _ released _ =>
      rcases released with rfl | ⟨kind, rfl⟩
      · exact .of_same rfl rfl rfl rfl
      · -- The runner that is let go is told so, and nothing else is.
        obtain ⟨-, cancelled, state, tornDown⟩ := taken.release_loop kind
        exact .of_same (taken.release_work kind).teardowns tornDown cancelled state
  | ended _ _ _ _ _ => exact .leave s s.alarms s.closeCode e.now
  | reaped _ _ _ _ _ _ => exact .of_same rfl rfl rfl rfl
  | wrote _ _ => exact .of_same rfl rfl rfl rfl
  | @answered _ _ _ _ _ start _ _ => cases start <;> exact .of_same rfl rfl rfl rfl
  | drained _ _ => exact .of_same rfl rfl rfl rfl
  | aborted _ _ =>
    -- Stopping the runners one by one touches no call either.
    exact abortRunners_keeps (P := fun t _ => Ongoing s (t.endLoop _)) numbered
      (.of_same rfl rfl rfl rfl) fun _ held =>
        ⟨held.teardowns, held.tornDown, held.told, held.state⟩

/-- A move is a step of a call that tears the session down, or the begin of one, or the session goes
on without. -/
theorem Moves.ongoing {m : Move} (numbered : s.Numbered) (moved : s.Moves e m s' e') :
    Ongoing s s' ∨ (∃ call, s.TeardownSteps e call s' e') ∨
      ∃ call, s.teardown? call = none ∧ s' = s.beginTeardown call e.now := by
  -- Only a teardown's own steps and a new call go beyond what is ongoing.
  cases moved with
  | looped steps => exact .inl (steps.ongoing numbered)
  | @closed call _ _ steps => exact .inr (.inl ⟨call, steps⟩)
  | @called call fresh => exact .inr (.inr ⟨call, fresh, rfl⟩)
  | told => exact .inl ⟨rfl, rfl, fun _ => rfl, .inl rfl⟩
  | _ => exact .inl (.of_same rfl rfl rfl rfl)

/-- A move leaves the state of a session, or advances it. -/
theorem Moves.state {m : Move} (numbered : s.Numbered) (moved : s.Moves e m s' e') :
    s'.state = s.state ∨ ∃ goal, s'.state = s.state.advance goal := by
  rcases moved.ongoing numbered with on | ⟨call, stepped⟩ | ⟨call, -, rfl⟩
  · rcases on.state with same | ⟨next, -⟩
    · exact .inl same
    · exact .inr ⟨_, next⟩
  · -- Only the end of the closing advances the state.
    cases stepped with
    | closed _ _ => exact .inr ⟨_, rfl⟩
    | _ => exact .inl rfl
  · exact .inr ⟨.closing, rfl⟩

/-- A closed session stays closed. -/
theorem Moves.closed_stays {m : Move} (numbered : s.Numbered) (moved : s.Moves e m s' e')
    (closed : s.state = .closed) : s'.state = .closed := by
  -- No state follows the closed one, so advancing it does nothing.
  rcases moved.state numbered with same | ⟨goal, next⟩
  · exact same.trans closed
  · rw [next, closed]
    rfl

/-- What is known of a session's teardown: one call does the work; a session that is called to end
or closes is told so, and one that is closed has no write half and nobody who still works on
that. -/
structure Settled (s : Session) : Prop where
  untouched : s.tornDown = false → s.teardowns = []
  called : s.teardowns ≠ [] → s.cancelled = true
  sole : ∀ c d, s.works c = true → s.works d = true → c = d
  told : s.state = .closing ∨ s.state = .closed → s.cancelled = true
  finished : s.state = .closed →
    s.outlet.writable = false ∧ s.tornDown = true ∧ ∀ c, s.works c = false

namespace Settled

/-- A session that goes on keeps what is known of its teardown. -/
theorem ongoing (settled : s.Settled) (on : Ongoing s s')
    (gone : s.outlet.writable = false → s'.outlet.writable = false) : s'.Settled := by
  have works (c : Nat) : s'.works c = s.works c := by
    simp only [Session.works, teardown?, on.teardowns]
  -- A session that is told to close is not closed by that.
  have state : (s'.state = .closing ∨ s'.state = .closed → s'.cancelled = true) ∧
      (s'.state = .closed → s.state = .closed) := by
    rcases on.state with same | ⟨next, told⟩
    · rw [same]
      exact ⟨fun closes => on.told (settled.told closes), id⟩
    · refine ⟨fun _ => told, fun closed => ?_⟩
      rw [next] at closed
      cases before : s.state <;> simp_all [SessionState.advance, SessionState.next?]
  -- The calls are the same ones, at the same work.
  refine ⟨fun fresh => ?_, fun called => ?_, fun c d => ?_, state.1, fun closed => ?_⟩
  · rw [on.teardowns]
    exact settled.untouched (on.tornDown.symm.trans fresh)
  · rw [on.teardowns] at called
    exact on.told (settled.called called)
  · rw [works, works]
    exact settled.sole c d
  · obtain ⟨dropped, tornDown, rest⟩ := settled.finished (state.2 closed)
    exact ⟨gone dropped, on.tornDown.trans tornDown, fun c => (works c).trans (rest c)⟩

/-- A call that works goes on, or it ends when the write half is gone. -/
theorem setTeardown {call : Nat} {phase old : TeardownPhase} (settled : s.Settled)
    (there : s.teardown? call = some old)
    (works : phase.isWork = true → old.isWork = true)
    (same : s'.teardowns = (s.setTeardown call phase).teardowns)
    (torn : s'.tornDown = s.tornDown) (cancelled : s'.cancelled = s.cancelled)
    (state : s'.state = s.state ∨ s'.state = s.state.advance .closed ∧ old.isWork = true ∧
      phase.isWork = false ∧ s'.outlet.writable = false)
    (gone : s.outlet.writable = false → s'.outlet.writable = false) : s'.Settled := by
  have after (c : Nat) : s'.works c = if c = call then phase.isWork else s.works c := by
    have found := teardown?_setTeardown s call c phase
    simp only [Session.works, teardown?] at found ⊢
    rw [same, found]
    split
    · simp [show s.teardowns.lookup call = some old from there]
    · rfl
  have before : s.works call = old.isWork := by simp [Session.works, there]
  -- Who works now has worked before.
  have since (c : Nat) (now : s'.works c = true) : s.works c = true := by
    rw [after] at now
    split at now
    · next own => rw [own, before]; exact works now
    · exact now
  -- The call is there, so the session was called to end before.
  have torn' : s.tornDown = true := by
    cases fresh : s.tornDown with
    | true => rfl
    | false => simp [teardown?, settled.untouched fresh] at there
  have told : s.cancelled = true := settled.called fun none => by simp [teardown?, none] at there
  refine ⟨fun fresh => ?_, fun _ => cancelled.trans told, fun c d first second => ?_,
    fun _ => cancelled.trans told, fun closed => ?_⟩
  · rw [torn, torn'] at fresh
    cases fresh
  · exact settled.sole c d (since c first) (since d second)
  · rcases state with same | ⟨next, worked, ends, dropped⟩
    · obtain ⟨dropped, -, rest⟩ := settled.finished (same.symm.trans closed)
      refine ⟨gone dropped, torn.trans torn', fun c => Bool.eq_false_iff.mpr fun now => ?_⟩
      have worked := since c now
      rw [rest c] at worked
      cases worked
    · -- The call that ends was the only one at work.
      refine ⟨dropped, torn.trans torn', fun c => Bool.eq_false_iff.mpr fun now => ?_⟩
      have own : c = call := settled.sole c call (since c now) (before.trans worked)
      rw [after, if_pos own, ends] at now
      cases now

end Settled

/-- Every step of a call keeps what is known of a teardown. -/
theorem TeardownSteps.settled {call : Nat} (settled : s.Settled) (sound : s.Sound)
    (moved : s.TeardownSteps e call s' e') : s'.Settled := by
  have gone := moved.writeSide.gone
  cases moved with
  | begun waits _ => exact settled.setTeardown waits (fun _ => rfl) rfl rfl rfl (.inl rfl) gone
  | aborted waits _ =>
    -- Stopping the loops from outside touches no call.
    exact settled.setTeardown waits (fun _ => rfl) rfl rfl rfl (.inl rfl) gone
  | wrote closing _ => exact settled.setTeardown closing (fun _ => rfl) rfl rfl rfl (.inl rfl) gone
  | @closed code stage o' ok f closing closes =>
    -- A closing that is past the line has taken the write half.
    have taken (begun : stage ≠ .queued) : s.outlet.writable = false := by
      refine sound.orderly.taken (.call call) ?_
      show Errand.hasTaken (s.errand (.call call)) = true
      rw [errand_closing closing]
      cases stage <;> first | rfl | exact absurd rfl begun
    -- However the closing ends, the write half was gone by then.
    have dropped : o'.writable = false := by
      cases Outlet.stepClose_closes closes with
      | refused _ off => exact off
      | ended _ => exact taken (by simp)
      | dropped begun => exact taken begun
    exact settled.setTeardown closing (fun _ => rfl) rfl rfl rfl
      (.inr ⟨rfl, rfl, rfl, dropped⟩) gone
  | watched watches _ =>
    exact settled.setTeardown watches (fun works => by cases works) rfl rfl rfl (.inl rfl) gone

/-- A new call finds the work taken on, or takes it on as the first. -/
theorem Settled.beginTeardown {call : Nat} (settled : s.Settled) (now : Nat)
    (fresh : s.teardown? call = none) : (s.beginTeardown call now).Settled := by
  let phase : TeardownPhase :=
    if s.tornDown then .watching (now + s.config.teardownTimeout)
    else .waiting (now + s.config.teardownTimeout)
  have after (c : Nat) : (s.beginTeardown call now).works c =
      if c = call then phase.isWork else s.works c := by
    have found := Lookup.append s.teardowns call c phase
    have none : s.teardowns.lookup call = none := fresh
    show ((s.teardowns ++ [(call, phase)]).lookup c).any TeardownPhase.isWork = _
    rw [found]
    split
    · next same => rw [same, none, Option.none_or]; rfl
    · rw [Option.or_none]; rfl
  -- Calling a session to end does not close it.
  have state : (s.beginTeardown call now).state = .closed → s.state = .closed := by
    intro closed
    have closed : s.state.advance .closing = .closed := closed
    cases before : s.state <;> simp_all [SessionState.advance, SessionState.next?]
  refine ⟨fun torn => (by cases torn), fun _ => rfl, fun c d first second => ?_, fun _ => rfl,
    fun closed => ?_⟩
  · rw [after] at first second
    cases torn : s.tornDown with
    | false =>
      -- Nobody else has called before.
      have idle (c : Nat) : s.works c = false := by
        simp [works, teardown?, settled.untouched torn]
      simp only [idle] at first second
      split at first
      · next own => split at second <;> simp_all
      · cases first
    | true =>
      -- The new call only watches, so who works is one of those before.
      have idle : phase.isWork = false := by simp [phase, torn, TeardownPhase.isWork]
      simp only [idle] at first second
      split at first
      · cases first
      · split at second
        · cases second
        · exact settled.sole c d first second
  · -- In a closed session the new call finds the work done.
    obtain ⟨dropped, torn, rest⟩ := settled.finished (state closed)
    refine ⟨dropped, rfl, fun c => ?_⟩
    rw [after, rest]
    simp [phase, torn, TeardownPhase.isWork]

/-- Every move keeps what is known of a teardown. -/
theorem Moves.settled {m : Move} (settled : s.Settled) (sound : s.Sound)
    (moved : s.Moves e m s' e') : s'.Settled := by
  have gone := (moved.writeSide sound.numbered).gone
  -- The move leaves the calls alone, or is a step of one, or begins one.
  rcases moved.ongoing sound.numbered with on | ⟨call, stepped⟩ | ⟨call, fresh, rfl⟩
  · exact settled.ongoing on gone
  · exact stepped.settled settled sound
  · exact settled.beginTeardown e.now fresh

theorem Begins.settled (begins : Begins s) : s.Settled := by
  -- A session that begins is running and nobody has called its teardown.
  have calls : s.teardowns = [] := by cases begins <;> rfl
  have state : s.state = .running := by cases begins <;> rfl
  have idle (c : Nat) : s.works c = false := by simp [works, teardown?, calls]
  refine ⟨fun _ => calls, fun called => absurd calls called, fun c d first => ?_,
    fun closes => ?_, fun closed => ?_⟩
  · rw [idle] at first
    cases first
  · simp [state] at closes
  · simp [state] at closed

theorem Run.settled {past : List Occasion} (begins : Begins s₀) (run : Run s₀ e₀ past s e) :
    s.Sound ∧ s.Settled :=
  run.keeps (P := fun s _ => s.Sound ∧ s.Settled) ⟨begins.sound, begins.settled⟩
    fun moved held =>
      ⟨(move_moves moved).sound held.1, (move_moves moved).settled held.2 held.1⟩

/-! ### A closed session -/

/-- What holds of a closed session: its write half is gone and all its runners are told to stop. -/
structure IsOver (s : Session) : Prop where
  closed : s.state = .closed
  gone : s.outlet.writable = false
  cancelled : s.cancelled = true
  told : ∀ r ∈ s.runners, s.isTold r = true

/-- A closed session is over. -/
theorem Settled.isOver (settled : s.Settled) (closed : s.state = .closed) : s.IsOver := by
  have cancelled : s.cancelled = true := settled.told (.inr closed)
  exact ⟨closed, (settled.finished closed).1, cancelled, fun r _ => by simp [isTold, cancelled]⟩

/-- Nobody in a closed session has taken the write half and still closes. -/
theorem Settled.not_taken (settled : s.Settled) (closed : s.state = .closed) (w : Writer) :
    Errand.hasTaken (s.errand w) = false := by
  refine Bool.eq_false_iff.mpr fun taken => ?_
  -- A call that closes works, and none does.
  obtain ⟨frame, stage, own⟩ := Errand.close_of_taken taken
  obtain ⟨call, code, -, there⟩ := teardown?_of_close own
  have idle := (settled.finished closed).2.2 call
  simp [works, there, TeardownPhase.isWork] at idle

/-- Once a session is closed its write half is gone and every runner is told to stop.

However it goes on, also with runners still to be started, it stays so.
Nothing more happens on its connection.

A close frame is the only one and the last of all frames. -/
theorem closed_is_silent {past : List Occasion} (begins : Begins s₀)
    (run : Run s₀ e₀ past s e) :
    (s.state = .closed → s.IsOver ∧ ∀ more s' e', Run s e more s' e' →
      s'.IsOver ∧ s'.outlet.log = s.outlet.log) ∧
    ∀ before f after, s.outlet.frames = before ++ .close f :: after →
      after = [] ∧ ∀ g, .close g ∉ before := by
  obtain ⟨sound, settled⟩ := run.settled begins
  refine ⟨fun closed => ⟨settled.isOver closed, fun more s' e' later => ?_⟩, ?_⟩
  · -- What is known of a closed session is kept by each move, and so is the log.
    have held := later.keeps
      (P := fun t _ => t.Sound ∧ t.Settled ∧ t.state = .closed ∧ t.outlet.log = s.outlet.log)
      ⟨sound, settled, closed, rfl⟩ fun {t _ _ _ _} moved
        ⟨sound, settled, closed, same⟩ => by
        have moved := move_moves moved
        have silent := (moved.writeSide sound.numbered).silent sound.orderly
          (settled.finished closed).1 (settled.not_taken closed)
        exact ⟨moved.sound sound, moved.settled settled sound,
          moved.closed_stays sound.numbered closed, silent.trans same⟩
    obtain ⟨-, settled', closed', same⟩ := held
    exact ⟨settled'.isOver closed', same⟩
  · intro before f after frames
    refine ⟨(sound.proper.last before f after frames).1, fun g earlier => ?_⟩
    -- Were there an earlier one, the later one would follow it.
    obtain ⟨front, rest, split⟩ := List.append_of_mem earlier
    rw [split, List.append_assoc, List.cons_append] at frames
    have none := (sound.proper.last front g _ frames).1
    simp at none

/-- A quiet session that is torn down sends one close frame, and is silent from then on. -/
theorem closed_is_silent_quiet :
    ∃ past s e, Run (.start {} default .clear 0 false) (.start (.of (.played .live))) past s e ∧
      s.outlet.frames = [.close (some ⟨1001, "server shutting down"⟩)] ∧
      s.IsOver ∧ ∀ more s' e', Run s e more s' e' →
      s'.IsOver ∧ s'.outlet.log = s.outlet.log := by
  let close : Move := .task (.teardown 0)
  -- The three loops stop, and the call closes the connection in five steps.
  have plays : ∃ past s e, play (.start {} default .clear 0 false) (.start (.of (.played .live)))
      [.teardown 0, .task .eventLoop, .task .eventLoop, .task .receiver, .task .keepAlive,
        close, close, close, close, close] = some (past, s, e) ∧ s.state = .closed ∧
      s.outlet.frames = [.close (some ⟨1001, "server shutting down"⟩)] :=
    ⟨_, _, _, rfl, rfl, rfl⟩
  obtain ⟨past, s, e, played, closed, frames⟩ := plays
  have run := Run.of_play played
  exact ⟨past, s, e, run, frames, (closed_is_silent (.attended _ _ _ _ _) run).1 closed⟩

end Session

end WatchRelay
