import Mathlib.Data.List.Destutter
import WatchRelay.Proofs.Session.Closing

/-! The life of a session under the calls that tear it down: the first call has the work, and it
ends only with the session closed. -/

namespace WatchRelay

/-- Whether the event loop has not left its loop, or has not come to it yet. -/
def LoopPhase.isOpen : LoopPhase → Bool
  | .idle | .selecting | .acknowledging _ _ _ => true
  | .draining _ | .finished _ | .discarded => false

namespace SessionState

/-- A session that has started closes when it is told to, unless it is closed already. -/
theorem advance_closing {state : SessionState} (started : state ≠ .starting) :
    state.advance .closing = .closing ∨ state.advance .closing = .closed := by
  -- Once it has started, a session that is told to close is closing or closed already.
  cases state with
  | starting => exact absurd rfl started
  | running => exact .inl rfl
  | closing => exact .inl rfl
  | closed => exact .inr rfl

/-- No session goes back to its start. -/
theorem advance_started {state : SessionState} (goal : SessionState)
    (started : state ≠ .starting) :
    state.advance goal ≠ .starting := by
  -- No step leads back to the start.
  unfold advance
  split
  · next next => cases state <;> cases goal <;> simp_all [next?]
  · exact started

/-- What a session goes through from a state on. -/
def onward : SessionState → List SessionState
  | .starting => [.starting, .running, .closing, .closed]
  | .running => [.running, .closing, .closed]
  | .closing => [.closing, .closed]
  | .closed => [.closed]

/-- Whether a state can come behind another one: it is the same or the next. -/
def Follows (before after : SessionState) : Prop := before = after ∨ before.next? = some after

theorem follows_advance (state goal : SessionState) : state.Follows (state.advance goal) := by
  -- A state goes to the next one or stays, and only the next one is ever asked for.
  unfold advance
  split
  · next next => exact .inr next
  · exact .inl rfl

/-- Behind a state in which the session closes comes no other than such a state. -/
theorem Follows.closes {before after : SessionState} (follows : before.Follows after)
    (closes : before = .closing ∨ before = .closed) : after = .closing ∨ after = .closed := by
  -- Behind closing stands closed, and behind closed nothing.
  rcases follows with rfl | next
  · exact closes
  · rcases closes with rfl | rfl
    · exact .inr (Option.some.inj next).symm
    · cases next

theorem onward_of_next {before after : SessionState} (next : before.next? = some after) :
    before ≠ after ∧ before.onward = before :: after.onward := by
  cases before <;> cases next <;> exact ⟨by decide, rfl⟩

/-- States that follow one another are, without repetitions, the first of those that a session goes
through. -/
theorem destutter_onward {state : SessionState} {states : List SessionState}
    (chain : (state :: states).IsChain Follows) :
    (state :: states).destutter (· ≠ ·) <+: state.onward := by
  rw [List.destutter_cons']
  -- The induction is on the states behind the first one, which it takes off one by one.
  induction states generalizing state with
  | nil => cases state <;> exact ⟨_, rfl⟩
  | cons after states ih =>
    obtain ⟨follows, rest⟩ := List.isChain_cons_cons.mp chain
    rcases follows with rfl | next
    · -- A state that stays is told once.
      rw [List.destutter'_cons_neg _ (by simp)]
      exact ih rest
    · obtain ⟨differ, onward⟩ := onward_of_next next
      rw [List.destutter'_cons_pos _ differ, onward]
      exact (List.prefix_cons_inj state).mpr (ih rest)

end SessionState

namespace Session

variable {s s' s₀ : Session} {e e' e₀ : Surroundings}

/-- The numbers of the calls that tear the session down. -/
def calls (s : Session) : List Nat := s.teardowns.map (·.1)

/-- Setting the phase of a call leaves the calls as they are. -/
@[simp] theorem calls_setTeardown (call : Nat) (phase : TeardownPhase) :
    (s.setTeardown call phase).calls = s.calls := by
  -- A phase is set under the number of its call, and the numbers stay.
  simp only [calls, setTeardown, List.map_map]
  refine List.map_congr_left fun entry _ => ?_
  by_cases own : entry.1 = call <;> simp [own]

/-- A call that begins is the last one. -/
@[simp] theorem calls_beginTeardown (call now : Nat) :
    (s.beginTeardown call now).calls = s.calls ++ [call] := by
  simp [calls, beginTeardown, beginClosing]

/-- A call that begins waits for the loops if it is the first, and only watches otherwise. -/
theorem teardown?_beginTeardown (call now other : Nat) :
    (s.beginTeardown call now).teardown? other = (s.teardown? other).or
      (if other = call then
        some (if s.tornDown then .watching (now + s.config.teardownTimeout)
          else .waiting (now + s.config.teardownTimeout))
      else none) :=
  Lookup.append ..

/-- A number that no call has is free. -/
theorem teardown?_eq_none {call : Nat} (free : call ∉ s.calls) : s.teardown? call = none := by
  -- Whoever has a teardown is among the calls.
  refine List.lookup_eq_none_iff.mpr fun entry among => ?_
  have other : entry.1 ≠ call := fun own => free (own ▸ List.mem_map_of_mem among)
  simpa using Ne.symm other

/-- A step of a call leaves the calls as they are. -/
theorem TeardownSteps.calls {call : Nat} (moved : s.TeardownSteps e call s' e') :
    s'.calls = s.calls := by
  cases moved <;> exact calls_setTeardown ..

/-- Only a call that begins adds to the calls. -/
theorem Moves.calls {m : Move} (numbered : s.Numbered) (moved : s.Moves e m s' e')
    (quiet : ∀ call, m ≠ .teardown call) : s'.calls = s.calls := by
  -- Only a new call adds one. A step of a teardown changes the phase under its number.
  cases moved with
  | looped steps => simp only [Session.calls, (steps.ongoing numbered).teardowns]
  | closed steps => exact steps.calls
  | called _ => exact absurd rfl (quiet _)
  | _ => rfl

/-- What is known of the calls to tear a session down: from the first one on the session closes, and
that one does the work, which ends when the session is closed. -/
structure Lived (s : Session) : Prop where
  started : s.state ≠ .starting
  taken : s.tornDown = true → s.teardowns ≠ []
  ending : s.teardowns ≠ [] → s.state = .closing ∨ s.state = .closed
  first : ∀ call phase rest, s.teardowns = (call, phase) :: rest →
    phase.isWork = true ∨ phase = .finished ∧ s.state = .closed

namespace Lived

/-- A session that goes on without a step of a call keeps what is known of its calls. -/
theorem ongoing (lived : s.Lived) (on : Ongoing s s') : s'.Lived := by
  refine ⟨?_, fun torn => ?_, fun called => ?_, fun call phase rest calls => ?_⟩
  · rcases on.state with same | ⟨next, -⟩
    · exact same ▸ lived.started
    · exact next ▸ SessionState.advance_started _ lived.started
  · rw [on.teardowns]
    exact lived.taken (on.tornDown.symm.trans torn)
  · rw [on.teardowns] at called
    rcases on.state with same | ⟨next, -⟩
    · exact same ▸ lived.ending called
    · exact next ▸ SessionState.advance_closing lived.started
  · rw [on.teardowns] at calls
    refine (lived.first call phase rest calls).imp id (.imp_right fun closed => ?_)
    -- Telling a closed session to close changes nothing.
    rcases on.state with same | ⟨next, -⟩
    · exact same.trans closed
    · rw [next, closed]
      rfl

/-- A call that works goes on with the work, or ends it and closes the session; one that only
watches may end at any time. -/
theorem setTeardown {call : Nat} {phase old : TeardownPhase} (lived : s.Lived)
    (there : s.teardown? call = some old) (pending : old ≠ .finished)
    (same : s'.teardowns = (s.setTeardown call phase).teardowns)
    (state : s'.state = s.state ∨ s'.state = s.state.advance .closed)
    (works : old.isWork = true →
      phase.isWork = true ∨ phase = .finished ∧ s'.state = s.state.advance .closed) :
    s'.Lived := by
  have called : s.teardowns ≠ [] := fun none => by simp [teardown?, none] at there
  have before := lived.ending called
  -- A session that is called to end closes at its next step, and is closed from then on.
  have next : s.state.advance .closed = .closed := by
    rcases before with closing | closed
    · rw [closing]
      rfl
    · rw [closed]
      rfl
  have after : s'.state = .closing ∨ s'.state = .closed := by
    rcases state with kept | closes
    · exact kept ▸ before
    · exact .inr (closes.trans next)
  have stays (closed : s.state = .closed) : s'.state = .closed := by
    rcases state with kept | closes
    · exact kept.trans closed
    · exact closes.trans next
  refine ⟨?_, fun _ => ?_, fun _ => after, fun c p rest calls => ?_⟩
  · rcases after with closing | closed
    · simp [closing]
    · simp [closed]
  · rw [same]
    simpa [Session.setTeardown] using called
  -- The first call stays first, so its phase is the new one or the old one.
  · cases entries : s.teardowns with
    | nil => exact absurd entries called
    | cons entry others =>
      have head : (if entry.1 = call then (call, phase) else entry) = (c, p) := by
        have front := same.symm.trans calls
        rw [Session.setTeardown, entries] at front
        exact (List.cons.inj front).1
      have known := lived.first entry.1 entry.2 others entries
      -- The first call is the one that moved, or it is as it was.
      by_cases own : entry.1 = call
      · obtain ⟨-, rfl⟩ := Prod.mk.inj ((if_pos own).symm.trans head)
        have found : entry.2 = old := by
          simpa [teardown?, entries, Lookup.cons, own] using there
        rw [found] at known
        rcases known with work | ⟨ended, -⟩
        · exact (works work).imp id (.imp_right fun closes => closes.trans next)
        · exact absurd ended pending
      · obtain rfl : entry = (c, p) := (if_neg own).symm.trans head
        exact known.imp id (.imp_right stays)

/-- The first call to begin takes on the work, and a later one only watches. -/
theorem beginTeardown (lived : s.Lived) (call now : Nat) :
    (s.beginTeardown call now).Lived := by
  -- A session that is called to end closes, whoever calls.
  have closes := SessionState.advance_closing lived.started
  refine ⟨SessionState.advance_started _ lived.started, fun _ => ?_, fun _ => closes,
    fun c p rest calls => ?_⟩
  · simp [Session.beginTeardown]
  · have calls : s.teardowns ++ _ = (c, p) :: rest := calls
    cases entries : s.teardowns with
    | nil =>
      -- Nobody has called before, so nobody has taken on the work.
      have fresh : s.tornDown = false := by
        cases torn : s.tornDown with
        | true => exact absurd entries (lived.taken torn)
        | false => rfl
      obtain ⟨⟨-, rfl⟩, -⟩ := by simpa [entries] using calls
      simp [beginClosing, fresh, TeardownPhase.isWork]
    | cons entry others =>
      rw [entries, List.cons_append] at calls
      -- The first call stays first, and closed stays closed.
      obtain ⟨rfl, -⟩ := List.cons.inj calls
      refine (lived.first c p others entries).imp id (.imp_right fun closed => ?_)
      show s.state.advance .closing = .closed
      rw [closed]
      rfl

end Lived

/-- Every step of a call keeps what is known of the calls. -/
theorem TeardownSteps.lived {call : Nat} (lived : s.Lived)
    (moved : s.TeardownSteps e call s' e') : s'.Lived := by
  -- The call that works goes on working until it has closed the connection.
  cases moved with
  | begun waits _ | aborted waits _ =>
    exact lived.setTeardown waits (by simp) rfl (.inl rfl) fun _ => .inl rfl
  | wrote closing _ =>
    exact lived.setTeardown closing (by simp) rfl (.inl rfl) fun _ => .inl rfl
  | closed closing _ =>
    exact lived.setTeardown closing (by simp) rfl (.inr rfl) fun _ => .inr ⟨rfl, rfl⟩
  | watched watches _ =>
    exact lived.setTeardown watches (by simp) rfl (.inl rfl) fun works => by cases works

/-- Every move keeps what is known of the calls. -/
theorem Moves.lived {m : Move} (lived : s.Lived) (numbered : s.Numbered)
    (moved : s.Moves e m s' e') : s'.Lived := by
  -- A move begins a teardown, is a step of one, or leaves all of them alone.
  rcases moved.ongoing numbered with on | ⟨call, stepped⟩ | ⟨call, -, rfl⟩
  · exact lived.ongoing on
  · exact stepped.lived lived
  · exact lived.beginTeardown call e.now

/-- No call to tear a session down has begun when it starts. -/
theorem Begins.calls (begins : Begins s) : s.calls = [] := by
  cases begins <;> rfl

theorem Begins.lived (begins : Begins s) : s.Lived := by
  -- At the start nobody has called.
  have calls : s.teardowns = [] := by cases begins <;> rfl
  refine ⟨?_, fun torn => ?_, fun called => absurd calls called, fun c p rest first => ?_⟩
  · cases begins <;> simp [start, idleLoop, discardLoop, endLoop, SessionState.advance,
      SessionState.next?]
  · cases begins <;> cases torn
  · rw [calls] at first
    cases first

/-- After any run, the first call to tear the session down does the work. -/
theorem Run.lived {past : List Occasion} (begins : Begins s₀) (run : Run s₀ e₀ past s e) :
    s.Lived :=
  run.keeps_along (P := fun _ s _ => s.Lived) begins.lived fun run moved lived =>
    (move_moves moved).lived lived (run.sound begins).numbered

/-- The only call to tear a session down has ended just if the session is closed. -/
theorem Lived.closed_of_only (lived : s.Lived) {call : Nat} (only : s.calls = [call])
    (ended : s.teardown? call = some .finished) : s.state = .closed := by
  -- The only call is the first one, which has worked up to the end.
  obtain ⟨⟨own, phase⟩, entry, rfl⟩ := List.map_eq_singleton_iff.mp only
  have found : phase = .finished := by simpa [teardown?, entry, Lookup.cons] using ended
  rcases lived.first own phase [] entry with work | ⟨-, closed⟩
  · rw [found] at work
    cases work
  · exact closed

/-! ### The phases of a call -/

/-- What a move makes of a call to tear the session down, by the phase that the call is in
afterwards. -/
inductive CallMoves (s : Session) (e : Surroundings) (m : Move) (call : Nat) :
    TeardownPhase → Prop where
  | stayed {phase : TeardownPhase} (same : s.teardown? call = some phase) :
      CallMoves s e m call phase
  | called (own : m = .teardown call) (first : s.tornDown = false) :
      CallMoves s e m call (.waiting (e.now + s.config.teardownTimeout))
  | joined (own : m = .teardown call) (later : s.tornDown = true) :
      CallMoves s e m call (.watching (e.now + s.config.teardownTimeout))
  | begun {deadline : Nat} (own : m = .task (.teardown call))
      (waits : s.teardown? call = some (.waiting deadline))
      (due : s.loopsOver = true ∨ deadline ≤ e.now) :
      CallMoves s e m call (.closing s.closeCode .queued)
  | wrote {code : CloseCode} {stage stage' : CloseStage} (own : m = .task (.teardown call))
      (closing : s.teardown? call = some (.closing code stage)) :
      CallMoves s e m call (.closing code stage')
  | returned (own : m = .task (.teardown call)) : CallMoves s e m call .finished

/-- A step of a call sets its own phase only. -/
theorem TeardownSteps.call {own call : Nat} {phase : TeardownPhase}
    (moved : s.TeardownSteps e own s' e') (found : s'.teardown? call = some phase) :
    s.CallMoves e (.task (.teardown own)) call phase := by
  -- Setting a phase leaves the phases of the other calls as they are.
  have set {t : Session} {next : TeardownPhase} (same : t.teardowns = s.teardowns)
      (found : (t.setTeardown own next).teardown? call = some phase) :
      s.teardown? call = some phase ∨ call = own ∧ phase = next := by
    rw [teardown?_setTeardown] at found
    split at found
    · next self =>
      obtain ⟨_, -, same⟩ := Option.map_eq_some_iff.mp found
      exact .inr ⟨self, same.symm⟩
    · rw [teardown?, same] at found
      exact .inl found
  -- The phase a step sets tells which step it was.
  cases moved with
  | begun waits halted =>
    rcases set rfl found with same | ⟨rfl, rfl⟩
    · exact .stayed same
    · exact .begun rfl waits (.inl halted)
  | aborted waits late =>
    rcases set rfl found with same | ⟨rfl, rfl⟩
    · exact .stayed same
    · exact .begun rfl waits (.inr late)
  | wrote closing _ =>
    rcases set rfl found with same | ⟨rfl, rfl⟩
    · exact .stayed same
    · exact .wrote rfl closing
  | closed _ _ =>
    rcases set rfl found with same | ⟨rfl, rfl⟩
    · exact .stayed same
    · exact .returned rfl
  | watched _ _ =>
    rcases set rfl found with same | ⟨rfl, rfl⟩
    · exact .stayed same
    · exact .returned rfl

/-- What each move makes of a call. -/
theorem Moves.call {m : Move} {call : Nat} {phase : TeardownPhase} (numbered : s.Numbered)
    (moved : s.Moves e m s' e') (found : s'.teardown? call = some phase) :
    s.CallMoves e m call phase := by
  -- Only the teardowns themselves and a new call change what calls do.
  cases moved with
  | looped steps =>
    rw [teardown?, (steps.ongoing numbered).teardowns] at found
    exact .stayed found
  | closed steps => exact steps.call found
  | called _ =>
    rw [teardown?_beginTeardown, Option.or_eq_some_iff] at found
    rcases found with same | ⟨-, new⟩
    · exact .stayed same
    · -- The call that begins works if it is the first, and watches otherwise.
      split at new
      · next self =>
        subst self
        split at new
        · next later => cases new; exact .joined rfl later
        · next first => cases new; exact .called rfl (by simpa using first)
      · cases new
  | _ => exact .stayed found

/-! ### The states a session goes through -/

/-- The states of a session along a run, from before it has started to where the run leads. -/
def stages (past : List Occasion) (s : Session) : List SessionState :=
  .starting :: past.map (fun o => o.session.state) ++ [s.state]

/-- A move leaves the state of a session or takes it one step on. -/
theorem Moves.follows {m : Move} (numbered : s.Numbered) (moved : s.Moves e m s' e') :
    s.state.Follows s'.state := by
  -- A move leaves the state or asks for the next one.
  rcases moved.state numbered with same | ⟨goal, next⟩
  · exact .inl same.symm
  · exact next ▸ SessionState.follows_advance s.state goal

/-! ### The way out of the event loop -/

/-- What the event loop leaves its loop for, with the code that tells it. -/
inductive LeavesFor (s : Session) : CloseCode → Prop where
  /-- The session was told to end. -/
  | told (told : s.cancelled = true) : LeavesFor s .away
  /-- A failure was reported, and it is the first one. -/
  | failed {f : SessionFailure} {rest : List SessionFailure} (untold : s.cancelled = false)
      (alarm : s.alarms.queue = f :: rest) : LeavesFor s (.ofFailure f)
  /-- The client has parted, and all its requests are taken. -/
  | parted (untold : s.cancelled = false) (calm : s.alarms.queue = [])
      (empty : s.receiver.queue = [])
      (ended : s.receiver.phase = .finished .peerClosed) : LeavesFor s .normal

/-- Whether receiving ends with the client, if the session was not told to end and nothing has
failed. -/
def PartsWithClient (s : Session) : Prop :=
  s.cancelled = false → s.alarms.queue = [] → s.receiver.isRunning = false →
    s.receiver.phase = .finished .peerClosed

/-- How the event loop goes on in a move: it stays in or out of its loop, or it leaves. -/
inductive Course (s : Session) (m : Move) (s' : Session) : Prop where
  | stays (phase : s'.loop.isOpen = s.loop.isOpen) (code : s'.closeCode = s.closeCode)
      (drains : ∀ deadline, s'.loop = .draining deadline → s.loop = .draining deadline)
      (given : s'.loop = .discarded ↔ s.loop = .discarded) : Course s m s'
  | leaves (selects : s.loop = .selecting) (own : m = .task .eventLoop)
      (left : ∃ deadline, s'.loop = .draining deadline)
      (closes : s'.state = s.state.advance .closing)
      (why : s.closeCode = .normal → s.PartsWithClient → s.LeavesFor s'.closeCode) :
        Course s m s'

/-- What the event loop leaves for is told by the code. -/
theorem leave_closeCode (s : Session) (now : Nat) : (s.leave now).closeCode = s.closeCode := by
  simp [leave, ResourceKind.all, beginClosing]

/-- How the event loop goes on in a step of its own. -/
theorem LoopSteps.course (numbered : s.Numbered) (moved : s.LoopSteps e s' e') :
    s.Course (.task .eventLoop) s' := by
  -- Whatever it leaves for, the session closes.
  have state (t : Session) : (t.leave e.now).state = t.state.advance .closing :=
    (foldl_release_loop ResourceKind.all t.beginClosing).2.1
  cases moved with
  -- The code is read after it was set for the cause of the leaving.
  | told selects told =>
    refine .leaves selects rfl ⟨_, rfl⟩ (state _) fun _ _ => ?_
    rw [leave_closeCode]
    exact .told told
  | failed selects untold alarm =>
    refine .leaves selects rfl ⟨_, rfl⟩ (state _) fun _ _ => ?_
    rw [leave_closeCode]
    exact .failed untold alarm
  | @dispatched request rest selects _ _ _ =>
    have acts :=
      dispatch_dispatches { s with receiver := { s.receiver with queue := rest } } request
    have code := acts.keeps Session.closeCode release_closeCode fun _ _ _ => rfl
    generalize dispatch _ request = s' at acts code
    -- What is dispatched keeps the loop open and does not touch the code.
    cases acts with
    | ignored _ => exact .stays rfl rfl (fun _ => id) .rfl
    | acknowledged _ _ _ =>
      exact .stays (by simp [acknowledge, selects, LoopPhase.isOpen]) code (by simp [acknowledge])
        (by simp [acknowledge, selects])
  | ended selects untold calm empty ended =>
    -- The code is not touched, so it is what it was before the loop has left.
    refine .leaves selects rfl ⟨_, rfl⟩ (state _) fun fresh parts => ?_
    rw [leave_closeCode, fresh]
    exact .parted untold calm empty (parts untold calm ended)
  | reaped _ _ _ _ _ _ => exact .stays rfl rfl (fun _ => id) .rfl
  | wrote answers _ =>
    exact .stays (by simp [answers, LoopPhase.isOpen]) rfl (by simp) (by simp [answers])
  | @answered _ _ _ _ _ start answers _ =>
    cases start <;>
      exact .stays (by simp [acknowledged, spawn, answers, LoopPhase.isOpen]) rfl
        (by simp [acknowledged, spawn]) (by simp [acknowledged, spawn, answers])
  | drained drains _ =>
    exact .stays (by simp [endLoop, drains, LoopPhase.isOpen]) rfl (by simp [endLoop])
      (by simp [endLoop, drains])
  -- To stop the runners is no matter of the code.
  | aborted drains _ =>
    have code : (s.abortRunners e).1.closeCode = s.closeCode :=
      abortRunners_keeps (P := fun t _ => t.closeCode = s.closeCode) numbered rfl fun _ held => held
    exact .stays (by simp [endLoop, drains, LoopPhase.isOpen]) code (by simp [endLoop])
      (by simp [endLoop, drains])

/-- How the event loop goes on in a move. -/
theorem Moves.course {m : Move} (numbered : s.Numbered) (moved : s.Moves e m s' e') :
    s.Course m s' := by
  -- Only the loop decides the course.
  cases moved with
  | looped steps => exact steps.course numbered
  | closed steps => cases steps <;> exact .stays rfl rfl (fun _ => id) .rfl
  | _ => exact .stays rfl rfl (fun _ => id) .rfl

/-- An event loop that waits for the runners does so in a session that closes. -/
theorem Run.drains {past : List Occasion} (begins : Begins s₀) (run : Run s₀ e₀ past s e)
    {deadline : Nat} (drains : s.loop = .draining deadline) :
    s.state = .closing ∨ s.state = .closed := by
  refine run.keeps_along
    (P := fun _ t _ => ∀ deadline, t.loop = .draining deadline →
      t.state = .closing ∨ t.state = .closed)
    (fun deadline drains => by cases begins <;> cases drains) ?_ deadline drains
  intro past t t' x x' m run moved held deadline drains
  have numbered := (run.sound begins).numbered
  have moves := move_moves moved
  cases moves.course numbered with
  | stays _ _ before _ =>
    -- It waited before, and a session that closes goes on to do so or is closed.
    exact (moves.follows numbered).closes (held deadline (before deadline drains))
  | leaves _ _ _ closes _ =>
    exact closes ▸ SessionState.advance_closing (run.lived begins).started

/-- Along any run, each state is followed by itself or by the next one. -/
theorem Run.stages {past : List Occasion} (begins : Begins s₀) (run : Run s₀ e₀ past s e) :
    (stages past s).IsChain SessionState.Follows := by
  refine run.keeps_along (P := fun past s _ => (Session.stages past s).IsChain SessionState.Follows)
    ?_ ?_
  · -- A session that begins has started.
    cases begins <;> exact .cons_cons (.inr rfl) (.singleton _)
  · intro past s s' e e' m run moved chain
    have follows := (move_moves moved).follows (run.sound begins).numbered
    have more :
        Session.stages (past ++ [⟨s, e, m⟩]) s' = Session.stages past s ++ [s'.state] := by
      simp [Session.stages]
    rw [more]
    refine List.isChain_append.mpr ⟨chain, .singleton _, fun before last after first => ?_⟩
    -- Where the chain has come to is the state before the move.
    obtain rfl : s.state = before := by
      rw [Session.stages, List.getLast?_concat] at last
      exact Option.some.inj last
    obtain rfl : s'.state = after := by simpa using first
    exact follows

/-- A move leaves the calls as they are, or adds one at their end. -/
theorem Moves.calls_grow {m : Move} (numbered : s.Numbered) (moved : s.Moves e m s' e') :
    s.calls <+: s'.calls := by
  -- Calls are added at the end, and only when they begin.
  rcases moved.ongoing numbered with on | ⟨call, stepped⟩ | ⟨call, -, rfl⟩
  · simp only [Session.calls, on.teardowns, List.prefix_refl]
  · exact stepped.calls ▸ List.prefix_refl _
  · exact calls_beginTeardown call e.now ▸ List.prefix_append _ _

/-- A call that works is the first one, and the session is closing. -/
theorem Lived.first_of_works (lived : s.Lived) (settled : s.Settled) {call : Nat}
    (works : s.works call = true) : s.calls.head? = some call ∧ s.state = .closing := by
  have called : s.teardowns ≠ [] := fun none => by simp [Session.works, teardown?, none] at works
  have closing : s.state = .closing := by
    refine (lived.ending called).resolve_right fun closed => ?_
    rw [(settled.finished closed).2.2 call] at works
    cases works
  refine ⟨?_, closing⟩
  cases entries : s.teardowns with
  | nil => exact absurd entries called
  | cons entry rest =>
    -- The first call has not ended, so it works, and only one call does.
    have working : s.works entry.1 = true := by
      rcases lived.first entry.1 entry.2 rest entries with work | ⟨-, closed⟩
      · simpa [Session.works, teardown?, entries, Lookup.cons] using work
      · rw [closing] at closed
        cases closed
    have own : call = entry.1 := settled.sole _ _ works working
    simp [Session.calls, entries, own]

/-- The first call works, or it has ended and the session is closed. -/
theorem Lived.first_works (lived : s.Lived) {first : Nat} {rest : List Nat}
    (calls : s.calls = first :: rest) :
    s.works first = true ∨ s.teardown? first = some .finished ∧ s.state = .closed := by
  -- The first entry of the list is that of the first call.
  obtain ⟨⟨own, phase⟩, others, entries, rfl, -⟩ := List.map_eq_cons_iff.mp calls
  have found : s.teardown? own = some phase := by simp [teardown?, entries]
  rcases lived.first own phase others entries with work | ⟨rfl, closed⟩
  · exact .inl (by simp [Session.works, found, work])
  · exact .inr ⟨found, closed⟩

/-- In any run, whoever has worked on the closing is the first call. -/
theorem Run.worked {past : List Occasion} (begins : Begins s₀) (run : Run s₀ e₀ past s e) :
    ∀ o ∈ past, ∀ call, o.session.works call = true → s.calls.head? = some call := by
  refine run.keeps_along
    (P := fun past s _ => ∀ o ∈ past, ∀ call, o.session.works call = true →
      s.calls.head? = some call) (fun o member => by cases member) ?_
  intro past s s' e e' m run moved held
  obtain ⟨sound, settled⟩ := run.settled begins
  have grows := (move_moves moved).calls_grow sound.numbered
  -- The first of the calls stays the first.
  have stays {call : Nat} (first : s.calls.head? = some call) : s'.calls.head? = some call := by
    obtain ⟨rest, same⟩ := grows
    obtain ⟨others, calls⟩ := List.head?_eq_some_iff.mp first
    rw [← same, calls, List.cons_append, List.head?_cons]
  exact Run.forall_concat (fun o member call works => stays (held o member call works))
    fun call works => stays ((run.lived begins).first_of_works settled works).1

/-- A closed session is closed however it goes on. -/
theorem Run.closed_stays {past more : List Occasion} (begins : Begins s₀)
    (run : Run s₀ e₀ past s e) (closed : s.state = .closed) (later : Run s e more s' e') :
    s'.state = .closed := by
  -- Closed is the last state, so each move keeps it.
  have held := later.keeps (P := fun t _ => t.Sound ∧ t.state = .closed)
    ⟨run.sound begins, closed⟩ fun moved held =>
      ⟨(move_moves moved).sound held.1, (move_moves moved).closed_stays held.1.numbered held.2⟩
  exact held.2

/-- A session goes through its states one after the other and skips, repeats and takes back none.

Who waits for its loops or closes its connection does so while the session is closing.
Its event loop waits for the runners not before that.

Of all the calls to tear it down only the first ever works on that.
It works until it has ended with the session closed, which stays closed whatever happens. -/
theorem states_in_order {past : List Occasion} (begins : Begins s₀)
    (run : Run s₀ e₀ past s e) :
    (stages past s).destutter (· ≠ ·) <+: [.starting, .running, .closing, .closed] ∧
    (s.calls ≠ [] → s.state = .closing ∨ s.state = .closed) ∧
    (∀ call, s.works call = true → s.state = .closing) ∧
    (∀ w frame stage, s.errand w = some (.close frame stage) → s.state = .closing) ∧
    (∀ deadline, s.loop = .draining deadline → s.state = .closing ∨ s.state = .closed) ∧
    (∀ first rest, s.calls = first :: rest →
      (∀ o ∈ past, ∀ call, o.session.works call = true → call = first) ∧
      (∀ call, s.works call = true → call = first) ∧
      (s.works first = true ∨ s.teardown? first = some .finished ∧ s.state = .closed)) ∧
    (s.state = .closed → ∀ more s' e', Run s e more s' e' → s'.state = .closed) := by
  have lived := run.lived begins
  have settled := (run.settled begins).2
  refine ⟨SessionState.destutter_onward (run.stages begins), fun called => ?_,
    fun call works => (lived.first_of_works settled works).2, fun w frame stage closing => ?_,
    fun deadline drains => run.drains begins drains,
    fun first rest calls => ⟨fun o member call works => ?_, fun call works => ?_,
      lived.first_works calls⟩, fun closed more s' e' later =>
        run.closed_stays begins closed later⟩
  · exact lived.ending fun none => called (by simp [Session.calls, none])
  · -- Only a call that works closes the connection.
    obtain ⟨call, code, -, there⟩ := teardown?_of_close closing
    have works : s.works call = true := by simp [Session.works, there, TeardownPhase.isWork]
    exact (lived.first_of_works settled works).2
  -- Whoever worked at some moment was first then, and has stayed first.
  · have head := run.worked begins o member call works
    rw [calls] at head
    exact (Option.some.inj head).symm
  -- Whoever works now is first.
  · have head := (lived.first_of_works settled works).1
    rw [calls] at head
    exact (Option.some.inj head).symm

/-- Two calls tear a session down: the first one has closed it in the end, and the second one
returns then. -/
theorem states_in_order_twice :
    ∃ past s e,
      Run (.start {} default .clear 0 false) (.start (.of (.catalog (Hub.empty 4 false))))
        past s e ∧
      (stages past s).destutter (· ≠ ·) = [.starting, .running, .closing, .closed] ∧
      s.calls = [0, 1] ∧ (s.works 0 = true ∨ s.teardown? 0 = some .finished ∧
        s.state = .closed) ∧
      (∀ o ∈ past, o.session.works 1 = false) := by
  let first : Move := .task (.teardown 0)
  let moves : List Move :=
    [.teardown 0, .teardown 1, .task .receiver, .task .eventLoop, .task .eventLoop,
      .task .keepAlive, first, first, first, first, first, .task (.teardown 1)]
  have plays : ((play (.start {} default .clear 0 false)
      (.start (.of (.catalog (Hub.empty 4 false)))) moves).any fun p =>
        decide ((stages p.1 p.2.1).destutter (· ≠ ·) =
          [.starting, .running, .closing, .closed] ∧
          p.2.1.calls = [0, 1])) = true := by
    decide +kernel
  obtain ⟨⟨past, s, e⟩, played, checked⟩ := (Option.any_eq_true _ _).mp plays
  obtain ⟨states, calls⟩ : _ ∧ s.calls = [0, 1] := of_decide_eq_true checked
  have run := Run.of_play played
  obtain ⟨-, -, -, -, -, only, -⟩ := states_in_order (.attended _ _ _ _ _) run
  obtain ⟨worked, -, ended⟩ := only 0 [1] calls
  refine ⟨past, s, e, run, states, calls, ended, fun o member => ?_⟩
  -- The second call never works.
  refine Bool.eq_false_iff.mpr fun works => ?_
  cases worked o member 1 works

end Session

end WatchRelay
