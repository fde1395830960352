import WatchRelay.Proofs.Session.Ending

/-! What the close frame of a session tells: what its event loop has left for, if the loop has left
by the time the connection is closed. -/

namespace WatchRelay

/-- A failure that is reported leaves no queue empty, unless it is expected. -/
theorem Alarms.calm_of_reportAny {a : Alarms} {f : Option SessionFailure}
    (calm : (a.reportAny f).queue = []) :
    a.queue = [] ∧ (0 < a.capacity → ∀ g, f = some g → g.isExpected = true) := by
  cases f with
  | none => exact ⟨calm, fun _ g none => by cases none⟩
  | some f =>
    -- A failure that is not expected finds room in the queue, or the queue is full already.
    simp only [reportAny, report] at calm
    split at calm
    · next expected => exact ⟨calm, fun _ g same => Option.some.inj same ▸ expected⟩
    · split at calm
      · simp at calm
      · next full => exact ⟨calm, fun room => absurd (by simpa [calm] using room) full⟩

/-- Receiving that ends without being told to and without a failure to be reported ends with the
client. -/
theorem Receiver.Steps.parts {r r' : Receiver} {now : Nat} {f : Option SessionFailure}
    (steps : r.Steps now false r' f) (taken : r.taken = true)
    (expected : ∀ g, f = some g → g.isExpected = true) (ended : r'.isRunning = false) :
    r'.phase = .finished .peerClosed := by
  cases steps with
  | told _ told => cases told
  | parted _ _ _ _ | ended _ _ _ _ => rfl
  | failed _ _ _ _ => simp [Receiver.fail, Receiver.finish, expected _ rfl]
  | lost _ _ _ _ => cases expected _ rfl
  | stopped _ told => simp [taken] at told
  -- In all other cases it goes on.
  | _ => cases ended

namespace Session

/-- Whether the event loop leaves its loop at a moment. -/
structure Occasion.Leaves (o : Occasion) : Prop where
  inside : o.session.loop.isOpen = true
  left : ∃ s' e', o.session.move o.env o.move = some (s', e') ∧ s'.loop.isOpen = false

/-- Whether a call to tear the session down begins to close the connection at a moment. -/
structure Occasion.BeginsClose (o : Occasion) (call : Nat) : Prop where
  own : o.move = .task (.teardown call)
  waits : ∃ deadline, o.session.teardown? call = some (.waiting deadline)

variable {s s' s₀ : Session} {e e' e₀ : Surroundings} {past : List Occasion} {m : Move}

/-! ### The end of receiving -/

/-- What a step of the event loop does with the failures and the receiver, if the session goes
on. -/
theorem LoopSteps.reports (moved : s.LoopSteps e s' e') (untold : s'.cancelled = false)
    (goes : s'.loopFinished = false) :
    ∃ f, s'.alarms = s.alarms.reportAny f ∧ s'.receiver.phase = s.receiver.phase := by
  -- Leaving the loop tells the session to end.
  have leaves {P : Prop} (alarms : Alarms) (code : CloseCode)
      (untold : ({ s with alarms, closeCode := code }.leave e.now).cancelled = false) : P := by
    rw [leave_cancelled] at untold
    cases untold
  cases moved with
  | told _ _ => exact leaves s.alarms .away untold
  | failed _ _ _ => exact leaves _ _ untold
  | ended _ _ _ _ _ => exact leaves s.alarms s.closeCode untold
  | @dispatched request rest _ _ _ _ =>
    -- A request is taken from the queue, and no more is done to the receiver.
    have acts :=
      dispatch_dispatches { s with receiver := { s.receiver with queue := rest } } request
    exact ⟨none, acts.keeps Session.alarms release_alarms fun _ _ _ =>
      rfl, by rw [acts.receiver]⟩
  | reaped _ _ _ _ _ _ => exact ⟨none, rfl, rfl⟩
  | wrote _ _ => exact ⟨none, rfl, rfl⟩
  | @answered _ _ _ _ f start _ _ => cases start <;> exact ⟨f, rfl, rfl⟩
  | drained _ _ | aborted _ _ => cases goes

/-- What a move does with the failures and the receiver, if the session goes on. -/
theorem Moves.reports (settled : s.Settled) (moved : s.Moves e m s' e')
    (untold : s'.cancelled = false) (goes : s'.loopFinished = false) :
    ∃ f, s'.alarms = s.alarms.reportAny f ∧
      (s'.receiver.phase = s.receiver.phase ∨
        s.receiver.Steps e.now s.cancelled s'.receiver f) := by
  cases moved with
  | received steps => exact ⟨_, rfl, .inr steps⟩
  | looped steps =>
    obtain ⟨f, alarms, phase⟩ := steps.reports untold goes
    exact ⟨f, alarms, .inl phase⟩
  | keptAlive _ => exact ⟨_, rfl, .inl rfl⟩
  | ran _ _ => exact ⟨_, rfl, .inl rfl⟩
  | @closed call _ _ steps =>
    -- Whoever calls for the end of a session tells it to end.
    have called : s.teardown? call ≠ none := by cases steps <;> simp_all
    have told : s.cancelled = true := settled.called fun none => called (by simp [teardown?, none])
    have same : s'.cancelled = s.cancelled := by cases steps <;> rfl
    rw [same, told] at untold
    cases untold
  | arrived frame =>
    refine ⟨none, rfl, .inl ?_⟩
    show (s.receiver.arrive frame).phase = s.receiver.phase
    unfold Receiver.arrive
    split <;> rfl
  | told | called _ => cases untold
  | _ => exact ⟨none, rfl, .inl rfl⟩

/-- While the event loop goes on, receiving ends with the client, unless the session is told to end
or something fails. -/
theorem Run.parts (begins : Begins s₀) (run : Run s₀ e₀ past s e)
    (goes : s.loopFinished = false) :
    s.PartsWithClient := by
  have held := run.keeps_along
    (P := fun _ t _ => t.loopFinished = false → t.cancelled = false →
      0 < t.alarms.capacity ∧ t.PartsWithClient) ?_ ?_ goes
  · exact fun untold => (held untold).2 untold
  · -- In a session that begins, receiving runs.
    intro goes _
    cases begins with
    | discarded => cases goes
    | _ => exact ⟨Nat.succ_pos 3, fun _ _ ended => by cases ended⟩
  · intro past t t' x x' m run moved held goes untold
    have moves := move_moves moved
    have settled := (run.settled begins).2
    obtain ⟨before, -⟩ := moves.open_ goes
    have untold' : t.cancelled = false := by
      refine Bool.eq_false_iff.mpr fun told => ?_
      rw [moves.cancelled (run.sound begins).numbered told] at untold
      cases untold
    obtain ⟨room, parts⟩ := held before untold'
    -- What is reported stays in the queue until the loop leaves, so an empty queue has seen
    -- nothing.
    obtain ⟨f, alarms, phase⟩ := moves.reports settled untold goes
    refine ⟨by rw [alarms]; simpa using room, fun _ calm ended => ?_⟩
    rw [alarms] at calm
    obtain ⟨calm', expected⟩ := Alarms.calm_of_reportAny calm
    rcases phase with same | steps
    · rw [same]
      exact parts untold' calm' (by rw [← ended, Receiver.isRunning, Receiver.isRunning, same])
    · rw [untold'] at steps
      exact steps.parts (run.receiver_taken begins before) (expected room) ended

/-! ### The code while the event loop goes on, and behind it -/

/-- What the code of a session tells along a run: before the event loop has left its loop it is the
normal one, and afterwards it is the one of the cause. -/
structure Tells (past : List Occasion) (s : Session) : Prop where
  before : s.loop.isOpen = true ∨ s.loop = .discarded →
    s.closeCode = .normal ∧ ∀ x ∈ past, ¬ x.Leaves
  left : s.loop.isOpen = false → s.loop ≠ .discarded → ∃ x ∈ past, x.Leaves
  cause : ∀ x ∈ past, x.Leaves → x.session.LeavesFor s.closeCode
  told : ∀ y ∈ past, y.session.cancelled = true → s.cancelled = true
  away : s.loop.isOpen = false → s.loop ≠ .discarded →
    ∀ y ∈ past, y.session.loop.isOpen = true → y.session.cancelled = true →
      s.closeCode = .away

/-- The cause is that the session was told to end, whenever it was. -/
theorem LeavesFor.of_told {code : CloseCode} (cause : s.LeavesFor code)
    (told : s.cancelled = true) :
    code = .away := by
  -- Each other cause asks that the session was not told.
  cases cause with
  | told _ => rfl
  | failed untold _ | parted untold _ _ _ =>
    rw [told] at untold
    cases untold

theorem Begins.tells (begins : Begins s) : Tells [] s := by
  -- Nothing has been sent and no move made, so only the first code has to be looked up.
  have code : s.closeCode = .normal := by cases begins <;> rfl
  refine ⟨fun _ => ⟨code, fun x member => absurd member List.not_mem_nil⟩, fun shut kept =>
    ?_, fun x member => absurd member List.not_mem_nil, fun y member =>
    absurd member List.not_mem_nil, fun _ _ y member => absurd member List.not_mem_nil⟩
  cases begins with
  | discarded => exact absurd rfl kept
  | _ => cases shut

namespace Tells

/-- A move in which the event loop stays where it is keeps what the code tells. -/
theorem stays (tells : Tells past s) (moved : s.move e m = some (s', e'))
    (told : ∀ y ∈ past ++ [⟨s, e, m⟩], y.session.cancelled = true → s'.cancelled = true)
    (phase : s'.loop.isOpen = s.loop.isOpen) (code : s'.closeCode = s.closeCode)
    (given : s'.loop = .discarded ↔ s.loop = .discarded) :
    Tells (past ++ [⟨s, e, m⟩]) s' := by
  -- The event loop does not leave its loop now.
  have stays : ¬ Occasion.Leaves ⟨s, e, m⟩ := by
    rintro ⟨inside, t, x, moved', left⟩
    rw [moved] at moved'
    cases moved'
    rw [phase, inside] at left
    cases left
  refine ⟨fun unleft => ?_, fun shut kept => ?_, ?_, told,
    fun shut kept y member inside heard => ?_⟩
  · rw [phase, given] at unleft
    rw [code]
    exact ⟨(tells.before unleft).1, Run.forall_concat (tells.before unleft).2 stays⟩
  · rw [phase] at shut
    obtain ⟨x, member, left⟩ := tells.left shut fun same => kept (given.mpr same)
    exact ⟨x, List.mem_append_left _ member, left⟩
  · rw [code]
    exact Run.forall_concat tells.cause fun left => absurd left stays
  · rw [phase] at shut
    rw [code]
    rcases List.mem_append.mp member with earlier | now
    · exact tells.away shut (fun same => kept (given.mpr same)) y earlier inside heard
    · -- The loop is not open now.
      obtain rfl := List.mem_singleton.mp now
      rw [shut] at inside
      cases inside

/-- When the event loop leaves its loop, the code tells what for. -/
theorem leaves {deadline : Nat} (tells : Tells past s) (moved : s.move e m = some (s', e'))
    (told : ∀ y ∈ past ++ [⟨s, e, m⟩], y.session.cancelled = true → s'.cancelled = true)
    (inside : s.loop.isOpen = true) (drains : s'.loop = .draining deadline)
    (cause : s.LeavesFor s'.closeCode) : Tells (past ++ [⟨s, e, m⟩]) s' := by
  have none := (tells.before (.inl inside)).2
  have leaves : Occasion.Leaves ⟨s, e, m⟩ := ⟨inside, s', e', moved, by rw [drains]; rfl⟩
  -- No move before has led out of the loop, so all that is told is told of this one.
  refine ⟨fun unleft => ?_,
    fun _ _ => ⟨_, List.mem_append_right _ (List.mem_singleton_self _), leaves⟩,
    Run.forall_concat (fun x member left => absurd left (none x member)) fun _ => cause, told,
    fun _ _ y member _ heard => cause.of_told ?_⟩
  · rw [drains] at unleft
    rcases unleft with open_ | given
    · cases open_
    · cases given
  · -- Whoever was told before is told now.
    rcases List.mem_append.mp member with earlier | now
    · exact tells.told y earlier heard
    · obtain rfl := List.mem_singleton.mp now
      exact heard

end Tells

/-- After any run, the code tells what it should. -/
theorem Run.tells (begins : Begins s₀) (run : Run s₀ e₀ past s e) : Tells past s := by
  refine run.keeps_along (P := fun past s _ => Tells past s) begins.tells ?_
  -- The phase and the code either stay, or the loop leaves now and sets the code by its cause.
  intro past s s' e e' m run moved tells
  have numbered := (run.sound begins).numbered
  have cancelled := (move_moves moved).cancelled numbered
  have told : ∀ y ∈ past ++ [⟨s, e, m⟩], y.session.cancelled = true →
      s'.cancelled = true :=
    Run.forall_concat (fun y member told => cancelled (tells.told y member told)) cancelled
  cases (move_moves moved).course numbered with
  | stays phase code _ given => exact tells.stays moved told phase code given
  | leaves selects _ left _ why =>
    obtain ⟨deadline, drains⟩ := left
    have inside : s.loop.isOpen = true := by rw [selects]; rfl
    have parts : s.PartsWithClient := run.parts begins (by simp [loopFinished, selects])
    exact tells.leaves moved told inside drains (why (tells.before (.inl inside)).1 parts)

/-! ### The code that is sent -/

/-- A close frame that is sent in a move is the one of a call that closes the connection. -/
theorem Moves.closes (sound : s.Sound) (moved : s.Moves e m s' e') {f : Option CloseFrame}
    {call : Nat} (sent : (.close f, .call call) ∈ s'.outlet.sent) :
    (.close f, .call call) ∈ s.outlet.sent ∨
      ∃ code stage, s.teardown? call = some (.closing code stage) ∧
        f = some ⟨code.number, code.reason⟩ := by
  by_cases own : m = .task (.teardown call)
  · subst own
    cases moved with
    | closed steps =>
      cases steps with
      | begun _ _ => exact .inl sent
      | aborted _ _ =>
        -- Stopping keep-alive lets it leave the line, and puts nothing on the connection.
        have same : (s.keepAlive.abort s.outlet).2.sent = s.outlet.sent := by
          unfold KeepAlive.abort
          split <;> rfl
        refine .inl ?_
        rw [← same]
        exact sent
      | wrote closing closes =>
        refine ((Outlet.stepClose_closes closes).of_sent sent).imp id fun new => ?_
        cases new
        exact ⟨_, _, closing, rfl⟩
      | closed closing closes =>
        refine ((Outlet.stepClose_closes closes).of_sent sent).imp id fun new => ?_
        cases new
        exact ⟨_, _, closing, rfl⟩
      | watched _ _ => exact .inl sent
  · -- Without a step of its own, a call puts nothing on the connection.
    have idle : ¬ m.acts (.call call) := by
      intro acts
      cases m with
      | task task => cases task <;> simp_all [Move.acts, Task.writer?]
      | _ => exact acts
    have same := (moved.writeSide sound.numbered).sentBy idle
    refine .inl (Outlet.mem_sentBy.mp ?_)
    rw [← show s'.outlet.sentBy (.call call) = s.outlet.sentBy (.call call) from same]
    exact Outlet.mem_sentBy.mpr sent

/-- The code of each close frame is the one that holds when its call begins to close the
connection. -/
theorem Run.codes (begins : Begins s₀) (run : Run s₀ e₀ past s e) :
    (∀ call code stage, s.teardown? call = some (.closing code stage) →
      ∃ o ∈ past, o.BeginsClose call ∧ code = o.session.closeCode) ∧
    (∀ call f, (.close f, .call call) ∈ s.outlet.sent → ∃ o ∈ past, o.BeginsClose call ∧
      f = some ⟨o.session.closeCode.number, o.session.closeCode.reason⟩) := by
  refine run.keeps_along
    (P := fun past t _ => (∀ call code stage, t.teardown? call = some (.closing code stage) →
        ∃ o ∈ past, o.BeginsClose call ∧ code = o.session.closeCode) ∧
      ∀ call f, (.close f, .call call) ∈ t.outlet.sent →
        ∃ o ∈ past, o.BeginsClose call ∧
        f = some ⟨o.session.closeCode.number, o.session.closeCode.reason⟩) ?_ ?_
  · -- A session that begins has sent nothing.
    refine ⟨fun call code stage closing => ?_, fun call f sent => ?_⟩
    · cases begins <;> cases closing
    · cases begins <;> cases sent
  · -- A call takes the code once, when it begins to close, and its frame is written with that.
    rintro past t t' x x' m run moved ⟨closings, frames⟩
    have sound := run.sound begins
    have moves := move_moves moved
    refine ⟨fun call code stage closing => ?_, fun call f sent => ?_⟩
    · cases moves.call sound.numbered closing with
      | stayed same =>
        obtain ⟨o, member, begun⟩ := closings call code stage same
        exact ⟨o, List.mem_append_left _ member, begun⟩
      | begun own waits _ =>
        exact ⟨_, List.mem_append_right _ (List.mem_singleton_self _), ⟨own, _, waits⟩, rfl⟩
      | wrote _ before =>
        obtain ⟨o, member, begun⟩ := closings call code _ before
        exact ⟨o, List.mem_append_left _ member, begun⟩
    · rcases moves.closes sound sent with earlier | ⟨code, stage, closing, rfl⟩
      · obtain ⟨o, member, begun⟩ := frames call f earlier
        exact ⟨o, List.mem_append_left _ member, begun⟩
      · obtain ⟨o, member, begun, rfl⟩ := closings call code stage closing
        exact ⟨o, List.mem_append_left _ member, begun, rfl⟩

/-- The code of a close frame is the one that holds when its call begins to close the connection.

If the event loop has left its loop by then, the code tells what for.
That is that the session was told to end, if it was told so before the loop has left.

Otherwise the code is the normal one.
Then the call has given up waiting for the event loop, or the event loop never ran. -/
theorem close_code_tells_cause (begins : Begins s₀) (run : Run s₀ e₀ past s e)
    {f : Option CloseFrame}
    {w : Writer} (sent : (.close f, w) ∈ s.outlet.sent) :
    ∃ call code before o after, w = .call call ∧ f = some ⟨code.number, code.reason⟩ ∧
      past = before ++ o :: after ∧ o.BeginsClose call ∧
      ((∃ x ∈ before, x.Leaves) ∧
        (∀ x ∈ before, x.Leaves → x.session.LeavesFor code) ∧
          ((∃ y ∈ before, y.session.loop.isOpen = true ∧ y.session.cancelled = true) →
            code = .away) ∨
        (∀ x ∈ before, ¬ x.Leaves) ∧ code = .normal ∧
          (o.session.loop = .discarded ∨ o.session.loop.isOpen = true ∧ o.GivesUp call)) := by
  -- Only calls write close frames.
  have suits := (run.sound begins).proper.sent _ sent
  obtain ⟨call, rfl⟩ : ∃ call, w = .call call := by
    cases w with
    | call call => exact ⟨call, rfl⟩
    | _ => cases suits
  -- The run passes through the moment at which the code was taken; what counts is what it told
  -- then.
  obtain ⟨o, member, begun, rfl⟩ := (run.codes begins).2 call f sent
  obtain ⟨before, after, rfl⟩ := List.append_of_mem member
  obtain ⟨s₁, e₁, first, moved, -⟩ := run.split
  have tells := first.tells begins
  refine ⟨call, _, before, o, after, rfl, rfl, rfl, begun, ?_⟩
  by_cases unleft : o.session.loop.isOpen = true ∨ o.session.loop = .discarded
  · obtain ⟨fresh, none⟩ := tells.before unleft
    refine .inr ⟨none, fresh, ?_⟩
    rcases unleft with inside | given
    · -- The event loop is not over, so it was not waited for to the end.
      have goes : o.session.loopFinished = false := by
        cases loop : o.session.loop <;> simp_all [LoopPhase.isOpen, loopFinished]
      obtain ⟨own, deadline, waits⟩ := begun
      rw [own] at moved
      cases move_moves moved with
      | closed steps =>
        have late := (steps.stops waits).2.2.resolve_left (by simp [goes])
        exact .inr ⟨inside, own, ⟨deadline, waits, late⟩, goes⟩
    · exact .inl given
  · obtain ⟨shut, kept⟩ := not_or.mp unleft
    have shut : o.session.loop.isOpen = false := by simpa using shut
    refine .inl ⟨tells.left shut kept, tells.cause, ?_⟩
    rintro ⟨y, earlier, inside, told⟩
    exact tells.away shut kept y earlier inside told

/-- A session that is told to end while a malformed text is reported closes with the code for the
former. -/
theorem close_code_tells_cause_away :
    ∃ past s e x, Run (.start {} default .clear 0 false) (around 0) past s e ∧
      s.outlet.sent = [(.close (some ⟨1001, "server shutting down"⟩), .call 0)] ∧
      x ∈ past ∧ x.Leaves ∧ x.session.LeavesFor .away := by
  -- The session is told to go while its loop waits, and a teardown closes with the loop's code.
  let call : Move := .task (.teardown 0)
  let moves : List Move :=
    [.arrive (.text "?"), .task .receiver, .cancel, .teardown 0, .task .eventLoop, .task .eventLoop,
      .task .keepAlive, call, call, call]
  have plays : ((play (.start {} default .clear 0 false) (around 0) moves).any fun p =>
      decide (p.2.1.outlet.sent =
        [(.close (some ⟨1001, "server shutting down"⟩), .call 0)])) = true := by
    decide +kernel
  obtain ⟨⟨past, s, e⟩, played, checked⟩ := (Option.any_eq_true _ _).mp plays
  have sent : s.outlet.sent = _ := of_decide_eq_true checked
  have run := Run.of_play played
  obtain ⟨call, code, before, o, after, -, told, rfl, -,
      ⟨⟨x, member, left⟩, cause, -⟩ | ⟨-, rfl, -⟩⟩ :=
    close_code_tells_cause (.attended _ _ _ _ _) run (sent ▸ List.mem_singleton_self _)
  · have away : code = .away := by cases code <;> simp_all [CloseCode.number]
    exact ⟨_, s, e, x, run, sent, List.mem_append_left _ member, left,
      away ▸ cause x member left⟩
  · cases told

/-- A session that is told to end while its event loop acknowledges closes with the normal code. -/
theorem close_code_misses_end :
    ∃ past s e, Run stalled (around 0) past s e ∧
      (.close (some ⟨1000, ""⟩), .call 0) ∈ s.outlet.sent ∧
      ∃ o ∈ past, o.session.cancelled = true ∧ o.session.loop.isOpen = true := by
  -- The acknowledgment stalls past the teardown timeout, and the transport recovers after it.
  let call : Move := .task (.teardown 0)
  let moves : List Move :=
    [.arrive (.text "\x7b\"op\":\"unsubscribe\",\"kind\":\"Artifact\"\x7d"), .task .receiver,
      .task .receiver, .task .eventLoop, .task .eventLoop, .cancel, .teardown 0,
      .outside (around 1000), call, .wire .clear, .task .eventLoop, .task .eventLoop, call, call]
  have plays : ((play stalled (around 0) moves).any fun p =>
      decide ((.close (some ⟨1000, ""⟩), .call 0) ∈ p.2.1.outlet.sent) &&
        p.1.any fun o => o.session.cancelled && o.session.loop.isOpen) = true := by
    decide +kernel
  obtain ⟨⟨past, s, e⟩, played, checked⟩ := (Option.any_eq_true _ _).mp plays
  obtain ⟨sent, told⟩ := Bool.and_eq_true_iff.mp checked
  obtain ⟨o, member, told⟩ := List.any_eq_true.mp told
  exact ⟨past, s, e, Run.of_play played, of_decide_eq_true sent, o, member,
    Bool.and_eq_true_iff.mp told⟩

end Session

end WatchRelay
