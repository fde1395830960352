import WatchRelay.Proofs.Session.Silence

/-! Every move of a session can be followed by one that goes the same way where no watch of a kind
is ever opened. -/

namespace WatchRelay

/-- What the event loop writes is no notification. -/
theorem OutFrame.notifies_of_eventLoop {frame : OutFrame} (suits : frame.suits .eventLoop = true)
    (kind : ResourceKind) : frame.notifies kind = false := by
  -- The loop writes acknowledgments, and these are no notifications.
  cases frame with
  | message m => cases op : m.op <;> simp_all [OutFrame.suits, OutFrame.notifies,
      Operation.isAcknowledgment, Operation.isNotification]
  | _ => rfl

/-- What a runner has in hand is of its kind. -/
def Runner.ReportsOwn (r : Runner) : Prop :=
  ∀ w m stage, r.phase = .forwarding w m stage → m.kind = .known r.kind

/-- In each step, a runner takes in hand what is of its kind. -/
theorem Runner.Steps.reportsOwn {r r' : Runner} {o o' : Outlet} {e e' : Surroundings}
    {credentials : Credentials} {stopped : Bool} {f : Option SessionFailure} (own : r.ReportsOwn)
    (moved : r.Steps o e credentials stopped (r', o', e', f)) : r'.ReportsOwn := by
  -- Of all steps only the reading of an event gives the runner something to write.
  generalize whole : (r', o', e', f) = change at moved
  intro w m stage forwards
  cases moved with
  | toldFirst _ _ => cases whole; cases forwards
  -- A runner that has just asked for its watch has nothing in hand yet.
  | opened _ _ =>
    obtain ⟨-, idle⟩ := openWatch_rests whole.symm
    simp [errand?, forwards] at idle
  | told _ _ => cases whole; cases forwards
  | consumed waits _ consumes =>
    subst whole
    unfold consume at consumes
    split at consumes
    · split at consumes
      · cases consumes
        rw [waits] at forwards
        cases forwards
      · next m' reports =>
        -- What is reported of an event is of the kind of the runner that reads it.
        cases consumes
        cases forwards
        obtain ⟨op, -, rfl⟩ := Option.map_eq_some_iff.mp reports
        rfl
    · cases consumes; cases forwards
    · cases consumes; cases forwards
    · cases consumes; cases forwards
    · cases consumes
      rw [waits] at forwards
      cases forwards
    · cases consumes
  | wrote forwards' _ =>
    cases whole
    cases forwards
    exact own _ _ _ forwards'
  | forwarded _ _ => cases whole; cases forwards
  | failed _ _ => cases whole; cases forwards

/-- A step of a runner that is not there leaves the write side as it stands to the other, and
reports nothing, if its write does not fail. -/
theorem Runner.Steps.muted {r r' : Runner} {o o₁ o' : Outlet} {e e' : Surroundings}
    {credentials : Credentials} {stopped : Bool} {failure : Option SessionFailure}
    {kind : ResourceKind} {f : Writer → Option Writer}
    (moved : r.Steps o e credentials stopped (r', o₁, e', failure)) (mutes : o.Mutes kind f o')
    (nameless : f (.runner r.id) = none)
    (news : ∀ w m stage, r.phase = .forwarding w m stage →
      (OutFrame.message m).notifies kind = true)
    (holds : ∀ w m stage o₂ g, r.phase = .forwarding w m stage →
      o.stepWrite e.now (.runner r.id) (.message m) stage ≠ some (o₂, .done false g)) :
    o₁.Mutes kind f o' ∧ failure = none := by
  -- The step is none of the other session, whose line has no place for this runner.
  generalize whole : (r', o₁, e', failure) = change at moved
  cases moved with
  | toldFirst _ _ => cases whole; exact ⟨mutes, rfl⟩
  | opened _ _ =>
    unfold openWatch at whole
    dsimp only at whole
    split at whole <;> cases whole <;> exact ⟨mutes, rfl⟩
  | told _ _ => cases whole; exact ⟨mutes, rfl⟩
  | consumed _ _ consumes =>
    subst whole
    unfold consume at consumes
    split at consumes
    · split at consumes
      · cases consumes; exact ⟨mutes, rfl⟩
      · cases consumes; exact ⟨mutes.joinOwn nameless, rfl⟩
    -- Whatever else a reading brings, it is no report.
    all_goals cases consumes
    all_goals exact ⟨mutes, rfl⟩
  | wrote forwards writes =>
    cases whole
    exact ⟨(mutes.stepOwn nameless (news _ _ _ forwards) writes (by simp)).1, rfl⟩
  | forwarded forwards writes =>
    cases whole
    obtain ⟨mutes', none⟩ := mutes.stepOwn nameless (news _ _ _ forwards) writes (by simp)
    exact ⟨mutes', none true _ rfl⟩
  | failed forwards writes =>
    cases whole
    exact absurd writes (holds _ _ _ _ _ forwards)

namespace Session

variable {s t s₁ t₁ s₀ : Session} {e e₁ e₀ : Surroundings} {kind : ResourceKind}
  {names names₁ : Nat → Option Nat} {past past' : List Occasion} {m : Move}

/-- In any run, each runner has in hand what is of its kind. -/
theorem Run.reportsOwn (begins : Begins s₀) (run : Run s₀ e₀ past s e) :
    ∀ r ∈ s.runners, r.ReportsOwn := by
  refine run.keeps_along (P := fun _ s _ => ∀ r ∈ s.runners, r.ReportsOwn)
    (by simp [begins.runners]) fun {past s s' e e' m} run moved held r' member => ?_
  obtain ⟨id, there⟩ := List.getElem?_of_mem member
  -- A runner is new, or goes on, or is stopped from outside.
  rcases run.accounts begins moved id r' there with ⟨-, spawned, -⟩ | ⟨r, found, fate⟩
  · intro w m stage forwards
    rw [spawned] at forwards
    cases forwards
  have own := held r (List.mem_of_getElem? found)
  have scope := fate.scope.1
  cases fate with
  | stepped _ steps _ => exact steps.reportsOwn own
  | kept _ same _ =>
    intro w m stage forwards
    rw [scope]
    exact own w m stage ((Runner.phase_of_core same).symm.trans forwards)
  | stopped _ _ same _ =>
    intro w m stage forwards
    rw [same] at forwards
    cases forwards

/-! ### Going on in silence -/

/-- Whether no watch of a kind is opened or held on an occasion. -/
structure Occasion.IsSilent (kind : ResourceKind) (o : Occasion) : Prop where
  opening : o.env.source.openings.get kind = .hang
  without : ∀ r ∈ o.session.runners, r.kind = kind → r.watch? = none

/-- What is done to a session from outside on an occasion, and when. -/
def Occasion.input? (o : Occasion) : Option (Nat × Move) :=
  match o.move with
  | .task _ | .outside _ => none
  | .arrive frame => some (o.env.now, .arrive frame)
  | .hangUp => some (o.env.now, .hangUp)
  | .wire wire => some (o.env.now, .wire wire)
  | .cancel => some (o.env.now, .cancel)
  | .teardown call => some (o.env.now, .teardown call)
  | .catalog action => some (o.env.now, .catalog action)

/-- Whether surroundings are met in a run. -/
def MetIn (past : List Occasion) (e x : Surroundings) : Prop := x = e ∨ ∃ o ∈ past, o.env = x

/-- Whether the surroundings, if they change on an occasion, come to be some that may be met, but
for a kind of which no watch is opened. -/
def Occasion.Retraces (kind : ResourceKind) (met : Surroundings → Prop) (o : Occasion) : Prop :=
  ∀ env, o.move = .outside env → ∃ x, met x ∧ env = x.hushed kind

/-- How a session goes on where no watch of a kind is opened or held, under what is done to it from
outside, and in the surroundings that may be met. -/
def GoesSilently (kind : ResourceKind) (met : Surroundings → Prop) (inputs : List (Nat × Move))
    (t : Session) (e : Surroundings) (t₁ : Session) (e₁ : Surroundings) : Prop :=
  ∃ past, Run t e past t₁ e₁ ∧ (∀ o ∈ past, o.IsSilent kind ∧ o.Retraces kind met) ∧
    past.filterMap Occasion.input? = inputs

namespace GoesSilently

variable {inputs more : List (Nat × Move)} {t₂ : Session} {e₂ x : Surroundings}
  {met wide : Surroundings → Prop}

/-- A session that stands still goes on in silence. -/
theorem refl (kind : ResourceKind) (met : Surroundings → Prop) (t : Session) (e : Surroundings) :
    GoesSilently kind met [] t e t e := ⟨[], .start, by simp, rfl⟩

/-- One way in silence goes on in another. -/
theorem trans (first : GoesSilently kind met inputs t e t₁ e₁)
    (second : GoesSilently kind met more t₁ e₁ t₂ e₂) :
    GoesSilently kind met (inputs ++ more) t e t₂ e₂ := by
  -- The two runs are put one behind the other.
  obtain ⟨past, run, silent, rfl⟩ := first
  obtain ⟨past', run', silent', rfl⟩ := second
  exact ⟨past ++ past', run.append run', List.forall_mem_append.mpr ⟨silent, silent'⟩,
    List.filterMap_append⟩

/-- More may be met. -/
theorem mono (goes : GoesSilently kind met inputs t e t₁ e₁)
    (wider : ∀ x, met x → wide x) : GoesSilently kind wide inputs t e t₁ e₁ := by
  -- What is met on the way is met in the wider sense as well.
  obtain ⟨past, run, silent, same⟩ := goes
  refine ⟨past, run, fun o member => ⟨(silent o member).1, fun env outside => ?_⟩, same⟩
  obtain ⟨x, reached, rfl⟩ := (silent o member).2 env outside
  exact ⟨x, wider x reached, rfl⟩

/-- One move on an occasion that is silent. -/
theorem single (moved : t.move e m = some (t₁, e₁))
    (silent : Occasion.IsSilent kind ⟨t, e, m⟩)
    (retraces : Occasion.Retraces kind met ⟨t, e, m⟩) :
    GoesSilently kind met (Occasion.input? ⟨t, e, m⟩).toList t e t₁ e₁ := by
  refine ⟨[⟨t, e, m⟩], .next .start moved, by simpa using ⟨silent, retraces⟩, ?_⟩
  cases input : Occasion.input? ⟨t, e, m⟩ <;> simp [input]

/-- A move that leads to surroundings that may be met. -/
theorem move (moved : t.move e m = some (t₁, x.hushed kind))
    (silent : Occasion.IsSilent kind ⟨t, e, m⟩) (reached : met x) :
    GoesSilently kind met (Occasion.input? ⟨t, e, m⟩).toList t e t₁ (x.hushed kind) := by
  -- What changes outside is what the move leads to.
  refine single moved silent fun env outside => ⟨x, reached, ?_⟩
  obtain rfl : m = .outside env := outside
  cases moved
  rfl

/-- A step of a task, behind which the surroundings come to be some that may be met. -/
theorem task {task : Task} {e' : Surroundings} (moved : t.move e (.task task) = some (t₁, e'))
    (silent : Occasion.IsSilent kind ⟨t, e, .task task⟩)
    (silent' : Occasion.IsSilent kind ⟨t₁, e', .outside (x.hushed kind)⟩) (reached : met x) :
    GoesSilently kind met [] t e t₁ (x.hushed kind) :=
  (single moved silent fun _ outside => nomatch outside).trans (move rfl silent' reached)

end GoesSilently

/-- Where the runners of a kind have nothing to report and the backend does not answer for it, the
session is silent about it. -/
theorem isSilent_of_peers {told : Bool} {runners : List Runner}
    (peers : Peers kind names told runners t.runners)
    (opening : e.source.openings.get kind = .hang) (m : Move) :
    Occasion.IsSilent kind ⟨t, e, m⟩ where
  opening := opening
  -- A runner of the kind is silent there, whoever it is.
  without r member own := by
    obtain ⟨id, found⟩ := List.getElem?_of_mem member
    exact peers.silent id r found own

/-- Whether what comes of a session on an occasion comes of another where no watch of a kind is
opened. -/
def Echoes (kind : ResourceKind) (t : Session) (o : Occasion) (s₁ : Session)
    (e₁ : Surroundings) :
    Prop :=
  ∃ t₁ names, GoesSilently kind (MetIn [o] e₁) o.input?.toList t (o.env.hushed kind) t₁
    (e₁.hushed kind) ∧ Mutes kind names s₁ t₁

/-- The other session makes a move of its own. -/
theorem Mutes.echo (mutes : Mutes kind names s t) (after : Mutes kind names₁ s₁ t₁) (n : Move)
    (moved : t.move (e.hushed kind) n = some (t₁, e₁.hushed kind))
    (inputs : Occasion.input? ⟨t, e.hushed kind, n⟩ = Occasion.input? ⟨s, e, m⟩) :
    Echoes kind t ⟨s, e, m⟩ s₁ e₁ := by
  -- The move counts as done from outside in both sessions or in none.
  refine ⟨t₁, names₁, ?_, after⟩
  rw [← inputs]
  exact .move moved (isSilent_of_peers mutes.peers (e.hushed_opening kind) n) (.inl rfl)

/-- Nothing comes of the other session. -/
theorem Mutes.rests (mutes : Mutes kind names s t) (after : Mutes kind names₁ s₁ t)
    {task : Task} : Echoes kind t ⟨s, e, .task task⟩ s₁ e₁ :=
  ⟨t, names₁, .move (m := .outside (e₁.hushed kind)) rfl
    (isSilent_of_peers mutes.peers (e.hushed_opening kind) _) (.inl rfl), after⟩

/-! ### What is done from outside, and the steps of the loops -/

/-- Who holds a watch in the other session holds it in the first. -/
theorem Mutes.leavesAlone (mutes : Mutes kind names s t) {action : HubAction}
    (alone : s.leavesAlone action = true) : t.leavesAlone action = true := by
  have holds {w : Nat} (held : t.holdsWatch w = true) : s.holdsWatch w = true := by
    obtain ⟨r', member, own⟩ := List.any_eq_true.mp held
    obtain ⟨k, found'⟩ := List.getElem?_of_mem member
    have own : r'.watch? = some w := by simpa using own
    -- It is of another kind, since those of the kind hold no watch there.
    have other : r'.kind ≠ kind := by
      intro same
      rw [mutes.peers.silent k r' found' same] at own
      cases own
    obtain ⟨i, r, -, found, alike⟩ := mutes.peers.here found' other
    refine List.any_eq_true.mpr ⟨r, List.mem_of_getElem? found, ?_⟩
    simpa [Runner.watch?, alike.phase] using own
  have free {w : Nat} (free : (!s.holdsWatch w) = true) : (!t.holdsWatch w) = true := by
    rw [Bool.not_eq_true'] at free ⊢
    exact Bool.eq_false_iff.mpr fun held => by simp [holds held] at free
  cases action with
  | read w => exact free alone
  | close w => exact free alone
  | _ => rfl

/-- What is done to a session from outside is done to the other. -/
theorem Mutes.echo_input (mutes : Mutes kind names s t) (outer : ∀ task, m ≠ .task task)
    (moved : s.move e m = some (s₁, e₁)) : Echoes kind t ⟨s, e, m⟩ s₁ e₁ := by
  -- Each input is made in the other session as it is, which neither its runners nor its line can
  -- prevent.
  have alone {action : HubAction} (free : s.leavesAlone action = true) :
      t.leavesAlone action = true := mutes.leavesAlone free
  have other := mutes
  obtain ⟨⟨o', l', a', rs', rfl⟩, outlet, loop, peers, live, waits⟩ := mutes
  cases m with
  | task task => exact absurd rfl (outer task)
  | arrive frame =>
    cases moved
    exact other.echo ⟨⟨_, _, _, _, rfl⟩, outlet, loop, peers, live, waits⟩ (.arrive frame)
      rfl rfl
  | hangUp =>
    cases moved
    exact other.echo ⟨⟨_, _, _, _, rfl⟩, outlet, loop, peers, live, waits⟩ .hangUp rfl rfl
  | wire wire =>
    cases moved
    exact other.echo ⟨⟨_, _, _, _, rfl⟩, outlet.rewire wire, loop, peers, live, waits⟩
      (.wire wire) rfl rfl
  | cancel =>
    cases moved
    exact other.echo ⟨⟨_, _, _, _, rfl⟩, outlet, loop, peers.tellAll rfl rfl,
      fun untold => Bool.noConfusion untold, fun untold => Bool.noConfusion untold⟩
        .cancel rfl rfl
  | teardown call =>
    simp only [Session.move] at moved
    split at moved
    · next fresh =>
      cases moved
      exact other.echo ⟨⟨_, _, _, _, rfl⟩, outlet, loop, peers.tellAll rfl rfl,
        fun untold => Bool.noConfusion untold, fun untold => Bool.noConfusion untold⟩
          (.teardown call)
        (if_pos fresh) rfl
    · cases moved
  | catalog action =>
    simp only [Session.move] at moved
    split at moved
    · next hub backend =>
      split at moved
      · next free =>
        cases moved
        refine other.echo ⟨⟨_, _, _, _, rfl⟩, outlet, loop, peers, live, waits⟩
          (.catalog action) ?_ rfl
        -- Whether a kind is hushed is nothing to the catalog.
        have backend : (e.hushed kind).source.backend = .catalog hub := backend
        simp only [Session.move, backend, alone free, if_true]
        rfl
      · cases moved
    · cases moved
  | outside env =>
    cases moved
    exact other.echo ⟨⟨_, _, _, _, rfl⟩, outlet, loop, peers, live, waits⟩
      (.outside (e₁.hushed kind)) rfl rfl

/-- The receiver gets on as it does in the other session. -/
theorem Mutes.echo_receiver (mutes : Mutes kind names s t)
    (moved : s.move e (.task .receiver) = some (s₁, e₁)) :
    Echoes kind t ⟨s, e, .task .receiver⟩ s₁ e₁ := by
  -- The receiver is the same in both, so it takes the same step.
  have other := mutes
  obtain ⟨⟨o', l', a', rs', rfl⟩, outlet, loop, peers, live, waits⟩ := mutes
  obtain ⟨⟨r, f⟩, stepped, same⟩ := Option.map_eq_some_iff.mp moved
  cases same
  refine other.echo ⟨⟨_, _, a', _, rfl⟩, outlet, loop, peers, live, waits⟩ (.task .receiver)
    ?_ rfl
  exact Option.map_eq_some_iff.mpr ⟨(r, f), stepped, rfl⟩

/-- Keep-alive gets on as it does in the other session. -/
theorem Mutes.echo_keepAlive (mutes : Mutes kind names s t)
    (moved : s.move e (.task .keepAlive) = some (s₁, e₁)) :
    Echoes kind t ⟨s, e, .task .keepAlive⟩ s₁ e₁ := by
  -- Keep-alive is the same in both, and its ping goes to a line that is alike.
  have other := mutes
  obtain ⟨⟨o', l', a', rs', rfl⟩, outlet, loop, peers, live, waits⟩ := mutes
  obtain ⟨⟨k, o₁, f⟩, stepped, same⟩ := Option.map_eq_some_iff.mp moved
  cases same
  obtain ⟨o₁', stepped', outlet'⟩ :=
    (KeepAlive.step_steps stepped).mirrored outlet peers.renames rfl
  refine other.echo ⟨⟨_, _, a', _, rfl⟩, outlet', loop, peers, live, waits⟩
    (.task .keepAlive)
    ?_ rfl
  exact Option.map_eq_some_iff.mpr ⟨(k, o₁', f), stepped', rfl⟩

/-- Keep-alive and the receiver are stopped from outside in both sessions. -/
theorem Mutes.abortLoops (mutes : Mutes kind names s t) :
    Mutes kind names s.abortLoops t.abortLoops := by
  obtain ⟨⟨o', l', a', rs', rfl⟩, outlet, loop, peers, live, waits⟩ := mutes
  have same : (s.keepAlive.abort o').1 = (s.keepAlive.abort s.outlet).1 := by
    unfold KeepAlive.abort
    split <;> rfl
  -- Of those in line, keep-alive is there in both sessions.
  have stopped : (s.keepAlive.abort s.outlet).2.Mutes kind (Writer.under names)
      (s.keepAlive.abort o').2 := by
    unfold KeepAlive.abort
    split
    · exact outlet.leave peers.renames rfl
    · exact outlet
  refine ⟨⟨(s.keepAlive.abort o').2, l', a', rs', ?_⟩, stopped, loop, peers, live, waits⟩
  simp only [Session.abortLoops, same]

/-- A call gets in line for closing the connection in both sessions. -/
theorem Mutes.beginClose (mutes : Mutes kind names s t) (call : Nat) :
    Mutes kind names (s.beginClose call) (t.beginClose call) := by
  obtain ⟨⟨o', l', a', rs', rfl⟩, outlet, loop, peers, live, waits⟩ := mutes
  exact ⟨⟨_, _, a', _, rfl⟩, outlet.join rfl, loop, peers, live, waits⟩

/-- A call goes on in both sessions. -/
theorem Mutes.setTeardown (mutes : Mutes kind names s t) {o o' : Outlet}
    (outlet : o.Mutes kind (Writer.under names) o') (state : SessionState) (call : Nat)
    (phase : TeardownPhase) :
    Mutes kind names ({ s with outlet := o, state }.setTeardown call phase)
      ({ t with outlet := o', state }.setTeardown call phase) := by
  obtain ⟨⟨_, l', a', rs', rfl⟩, -, loop, peers, live, waits⟩ := mutes
  exact ⟨⟨_, _, a', _, rfl⟩, outlet, loop, peers, live, waits⟩

/-- A call that tears the session down gets on as it does in the other. -/
theorem Mutes.echo_teardown (mutes : Mutes kind names s t) {call : Nat}
    (moved : s.move e (.task (.teardown call)) = some (s₁, e₁)) :
    Echoes kind t ⟨s, e, .task (.teardown call)⟩ s₁ e₁ := by
  have shared : t.teardown? call = s.teardown? call ∧ t.loopsOver = s.loopsOver ∧
      t.state = s.state := by
    have finished := mutes.loopFinished
    obtain ⟨_, _, _, _, rfl⟩ := mutes.rest
    exact ⟨rfl, by rw [loopsOver, finished, loopsOver], rfl⟩
  -- The calls stand where they stand, and wait for the same loops.
  obtain ⟨phases, settled, states⟩ := shared
  simp only [Session.move, step, stepTeardown] at moved
  -- In each phase, the call does in the one session what it does in the other.
  split at moved
  · next deadline phase =>
    rw [phase] at phases
    split at moved
    -- The two loops are over, so the call begins to close.
    · next still =>
      cases moved
      refine mutes.echo (mutes.beginClose call) (.task (.teardown call)) ?_ rfl
      simp only [Session.move, step, stepTeardown, phases, settled, still, if_true]
    · next busy =>
      split at moved
      -- Their time is over, so the call breaks them off in both sessions.
      · next late =>
        cases moved
        refine mutes.echo (mutes.abortLoops.beginClose call) (.task (.teardown call)) ?_ rfl
        simp only [Session.move, step, stepTeardown, phases, settled, busy, Surroundings.hushed_now,
          late, if_true]
        rfl
      · cases moved
  · next code stage phase =>
    rw [phase] at phases
    split at moved
    · cases moved
    · next closes =>
      cases moved
      -- What the close does to the connection it does under the same name in both.
      obtain ⟨o₁', closes', outlet⟩ := mutes.outlet.stepClose mutes.peers.renames rfl closes
      refine mutes.echo (mutes.setTeardown outlet s.state call _) (.task (.teardown call)) ?_ rfl
      simp only [Session.move, step, stepTeardown, phases, Surroundings.hushed_now, closes',
        ← states]
    · next closes =>
      cases moved
      obtain ⟨o₁', closes', outlet⟩ := mutes.outlet.stepClose mutes.peers.renames rfl closes
      refine mutes.echo (mutes.setTeardown outlet (s.state.advance .closed) call .finished)
        (.task (.teardown call)) ?_ rfl
      simp only [Session.move, step, stepTeardown, phases, Surroundings.hushed_now, closes', states]
      rfl
  · next deadline phase =>
    rw [phase] at phases
    split at moved
    · next due =>
      cases moved
      refine mutes.echo (mutes.setTeardown mutes.outlet s.state call .finished)
        (.task (.teardown call)) ?_ rfl
      rw [← states] at due ⊢
      simp only [Session.move, step, stepTeardown, phases, Surroundings.hushed_now, due, if_true]
    · cases moved
  · cases moved
  · cases moved

/-! ### The steps of the runners -/

/-- A runner that runs when another phase is set for one ran before. -/
theorem HasLive.of_setPhase {id : Nat} {r : Runner} (found : s.runners[id]? = some r)
    (runs : r.isRunning = true) {phase : RunnerPhase} {outlet : Outlet} {alarms : Alarms}
    (live : { s with outlet, runners := s.runners.set id { r with phase }, alarms }.HasLive kind) :
    s.HasLive kind := by
  obtain ⟨i, q, there, own, still, uncancelled⟩ := live
  -- A phase says nothing about who was told to stop.
  rcases found_of_set there with ⟨rfl, rfl⟩ | ⟨-, there⟩
  · exact ⟨id, r, found, own, runs, uncancelled⟩
  · exact ⟨i, q, there, own, still, uncancelled⟩

/-- A runner goes on running when another phase is set for one of another kind. -/
theorem HasLive.setOther {id : Nat} {r r₁ : Runner} (live : s.HasLive kind)
    (found : s.runners[id]? = some r) (other : r.kind ≠ kind) {outlet : Outlet}
    {alarms : Alarms} :
    { s with outlet, runners := s.runners.set id r₁, alarms }.HasLive kind := by
  -- The runner that is live is another one, so it is left as it is.
  obtain ⟨i, q, there, own, rest⟩ := live
  have place : id ≠ i := by
    rintro rfl
    rw [found] at there
    cases there
    exact other own
  exact ⟨i, q, by rw [← there]; exact List.getElem?_set_ne place, own, rest⟩

/-- A runner of another kind gets on as it does in the other session. -/
theorem Mutes.echo_runner (mutes : Mutes kind names s t) (numbered : s.Numbered)
    (numbered' : t.Numbered) {id : Nat} {r : Runner} (found : s.runners[id]? = some r)
    (own : r.ReportsOwn) (other : r.kind ≠ kind)
    (moved : s.move e (.task (.runner id)) = some (s₁, e₁)) :
    Echoes kind t ⟨s, e, .task (.runner id)⟩ s₁ e₁ := by
  have whole := mutes
  obtain ⟨⟨o', l', a', rs', rfl⟩, outlet, loop, peers, live, waits⟩ := mutes
  simp only [Session.move, step, found] at moved
  obtain ⟨⟨r₁, o₁, e', f⟩, stepped, same⟩ := Option.map_eq_some_iff.mp moved
  cases same
  have steps := Runner.step_steps stepped
  -- It has its number in the other session, under which it writes there.
  obtain ⟨j, r', name, found', alike⟩ := peers.there found other
  have written : Writer.under names (.runner r.id) = some (.runner r'.id) := by
    rw [numbered id r found, numbered' j r' found', Writer.under, name]
    rfl
  obtain ⟨o₁', stepped', outlet'⟩ := alike.step peers.renames outlet written other
    (fun w m stage forwards => by simp [OutFrame.notifies, own w m stage forwards, other]) steps
  obtain ⟨phase, rfl⟩ := steps.phase
  have other' : r'.kind ≠ kind := by rw [alike.kind]; exact other
  refine whole.echo ⟨⟨o₁', l', a', rs'.set j { r' with phase }, rfl⟩, outlet', ?_,
    peers.setPhase name found found' steps.running phase, fun untold there => ?_,
    fun untold k x there same runs => ?_⟩ (.task (.runner j)) ?_ rfl
  -- Who waits for its watch there is of the kind, and this one is not.
  · rcases loop with same | ⟨m, stage, project, answers, answers', there⟩
    · exact .inl same
    · exact .inr ⟨m, stage, project, answers, answers', there.setOther found' other'⟩
  · exact (live untold (there.of_setPhase found steps.running)).setOther found' other'
  · rcases found_of_set there with ⟨rfl, rfl⟩ | ⟨-, there⟩
    · exact absurd same other'
    · exact waits untold k x there same runs
  · have found' : rs'[j]? = some r' := found'
    simp only [Session.move, step, found']
    exact Option.map_eq_some_iff.mpr ⟨_, stepped', rfl⟩

/-- A runner of the kind gets on without anything coming of the other session, as long as its writes
do not fail. -/
theorem Mutes.echo_own (mutes : Mutes kind names s t) (sound : s.Sound) {id : Nat} {r : Runner}
    (found : s.runners[id]? = some r) (own : r.ReportsOwn) (same : r.kind = kind)
    (holds : Occasion.failsWrite ⟨s, e, .task (.runner id)⟩ = false)
    (moved : s.move e (.task (.runner id)) = some (s₁, e₁)) :
    Echoes kind t ⟨s, e, .task (.runner id)⟩ s₁ e₁ := by
  have whole := mutes
  obtain ⟨⟨o', l', a', rs', rfl⟩, outlet, loop, peers, live, waits⟩ := mutes
  simp only [Session.move, step, found] at moved
  obtain ⟨⟨r₁, o₁, e', f⟩, stepped, made⟩ := Option.map_eq_some_iff.mp moved
  cases made
  have steps := Runner.step_steps stepped
  -- It has no number in the other session, so its place in line is nothing to it.
  have nameless : Writer.under names (.runner r.id) = none := by
    rw [sound.numbered id r found, Writer.under, peers.nameless found same]
    rfl
  -- All it ever writes are notifications of the kind, which the other session lacks.
  have news (w : Nat) (m : Message) (stage : WriteStage)
      (forwards : r.phase = .forwarding w m stage) :
      (OutFrame.message m).notifies kind = true := by
    have fits := sound.proper.fits (.runner id)
    simp only [writeSide, errand, found, Option.bind_some, Runner.errand?, forwards,
      Errand.Fits] at fits
    have suits : m.op.isNotification = true := fits.2
    simp [OutFrame.notifies, own w m stage forwards, same, suits]
  obtain ⟨outlet', rfl⟩ :=
    steps.muted outlet nameless news fun w m stage o₂ g forwards writes => by
    have fails : Occasion.failsWrite ⟨s, e, .task (.runner id)⟩ = true :=
      failsWrite_of rfl (by simp [errand, found, Runner.errand?, forwards])
        (sound.numbered id r found ▸ writes)
    rw [fails] at holds
    cases holds
  obtain ⟨phase, rfl⟩ := steps.phase
  have live' (untold : s.cancelled = false)
      (there : { s with outlet := o₁, runners := s.runners.set id { r with phase } }.HasLive
        kind) :=
    live untold (there.of_setPhase found steps.running)
  have after :
      Mutes kind names { s with outlet := o₁, runners := s.runners.set id { r with phase } }
      { s with outlet := o', loop := l', active := a', runners := rs' } :=
    ⟨⟨o', l', a', rs', rfl⟩, outlet', loop, peers.setOwn found same phase, live', waits⟩
  -- The other session rests meanwhile.
  exact whole.rests after

/-! ### The steps of the event loop -/

/-- What neither the runners nor the write side have to do with is set in both sessions. -/
theorem Mutes.setAlarms (mutes : Mutes kind names s t) (alarms : Alarms) (code : CloseCode) :
    Mutes kind names { s with alarms, closeCode := code } { t with alarms, closeCode := code } := by
  obtain ⟨⟨o', l', a', rs', rfl⟩, outlet, loop, peers, live, waits⟩ := mutes
  exact ⟨⟨o', l', a', rs', rfl⟩, outlet, loop, peers, live, waits⟩

theorem Mutes.setReceiver (mutes : Mutes kind names s t) (receiver : Receiver) :
    Mutes kind names { s with receiver } { t with receiver } := by
  obtain ⟨⟨o', l', a', rs', rfl⟩, outlet, loop, peers, live, waits⟩ := mutes
  exact ⟨⟨o', l', a', rs', rfl⟩, outlet, loop, peers, live, waits⟩

/-- That the end of a runner is taken note of is nothing to the other session. -/
theorem Mutes.reap (mutes : Mutes kind names s t) (r : Runner) : Mutes kind names (s.reap r) t := by
  -- That a runner is joined is nothing the other session could tell.
  obtain ⟨⟨o', l', a', rs', rfl⟩, outlet, loop, peers, live, waits⟩ := mutes
  refine ⟨⟨o', l', a', rs', rfl⟩, outlet, loop, peers.goOn (fun i q there => ?_)
    (fun k q there => ⟨q, there, rfl, fun _ without => without⟩)
    fun i k q q' _ found found' _ alike => ?_, fun untold there => live untold ?_, waits⟩
  · obtain ⟨q, found, rfl | rfl⟩ := found_of_modify there
    · exact ⟨_, found, rfl⟩
    · exact ⟨q, found, rfl⟩
  · have there : (s.reap r).runners[i]? =
        some (if r.id = i then { q with joined := true } else q) := by
      show (s.runners.modify r.id _)[i]? = _
      rw [List.getElem?_modify, found]
      rfl
    refine ⟨_, q', there, found', ?_⟩
    split
    · exact ⟨alike.kind, alike.project, alike.phase, alike.told⟩
    · exact alike
  · obtain ⟨i, q, there, own, runs, uncancelled⟩ := there
    obtain ⟨q₀, found, rfl | rfl⟩ := found_of_modify there
    · exact ⟨i, _, found, own, runs, uncancelled⟩
    · exact ⟨i, q₀, found, own, runs, uncancelled⟩

/-- The event loop takes its next step while it selects. -/
theorem Mutes.echo_selecting (mutes : Mutes kind names s t) (held : Recorded s) (held' : Recorded t)
    (selects : s.loop = .selecting) (moved : s.move e (.task .eventLoop) = some (s₁, e₁)) :
    Echoes kind t ⟨s, e, .task .eventLoop⟩ s₁ e₁ := by
  have idle : s.loop.start? = none := by rw [selects]; rfl
  have selects' : t.loop = .selecting := (mutes.loop_eq idle).trans selects
  -- What the loop takes next is decided by what both sessions share; only that a runner has stopped
  -- is not.
  have leaves (alarms : Alarms) (code : CloseCode) :=
    (mutes.setAlarms alarms code).leave e.now
  have shared : t.cancelled = s.cancelled ∧ t.alarms = s.alarms ∧ t.receiver = s.receiver := by
    obtain ⟨_, _, _, _, rfl⟩ := mutes.rest
    exact ⟨rfl, rfl, rfl⟩
  obtain ⟨cancelled, alarms, receiver⟩ := shared
  have steps := stepLoop_steps moved
  cases steps with
  | told _ told =>
    refine mutes.echo (leaves s.alarms .away) (.task .eventLoop) ?_ rfl
    simp only [Session.move, step, stepLoop, selects', cancelled, told, if_true, ← alarms]
    rfl
  | @failed f rest _ untold alarm =>
    refine mutes.echo (leaves { s.alarms with queue := rest } (.ofFailure f))
      (.task .eventLoop) ?_ rfl
    simp only [Session.move, step, stepLoop, selects', cancelled, untold, alarms, alarm]
    rfl
  | @dispatched request rest _ untold calm waiting =>
    have taken := mutes.setReceiver { s.receiver with queue := rest }
    have acts := taken.dispatch (held.abides (.of_same rfl rfl id (.inr rfl)))
      (held'.abides (.of_same rfl rfl id (.inr rfl))) untold idle request
    refine mutes.echo acts (.task .eventLoop) ?_ rfl
    simp only [Session.move, step, stepLoop, selects', cancelled, untold, alarms, calm, receiver,
      Receiver.take?, waiting]
    rfl
  | ended _ untold calm empty ended =>
    refine mutes.echo (mutes.leave e.now) (.task .eventLoop) ?_ rfl
    simp only [Session.move, step, stepLoop, selects', cancelled, untold, alarms, calm, receiver,
      Receiver.take?, empty, ended]
    rfl
  | @reaped r _ _ _ _ _ _ => exact mutes.rests (mutes.reap r)
  -- In any other phase the loop does something else.
  | wrote answers _ => rw [selects] at answers; cases answers
  | answered answers _ => rw [selects] at answers; cases answers
  | drained drains _ => rw [selects] at drains; cases drains
  | aborted drains _ => rw [selects] at drains; cases drains

/-- A runner of the kind that is started asks for its watch in vain, unless it is told to stop. -/
theorem spawn_goesSilently (t : Session) (e : Surroundings) (kind : ResourceKind) (project : String)
    (silent : ∀ (m : Move) (e' : Surroundings),
      Occasion.IsSilent kind ⟨t, e'.hushed kind, m⟩) :
    GoesSilently kind (· = e) [] (t.spawn kind project) (e.hushed kind)
      (t.spawnSilent kind project) (e.hushed kind) := by
  -- Neither the runners that were there nor the new one hold a watch of the kind.
  have silent' {t' : Session} {phase : RunnerPhase}
      (runners : t'.runners =
        t.runners ++ [{ Runner.new t.runners.length kind project with phase }])
      (without : { Runner.new t.runners.length kind project with phase }.watch? = none) (m : Move)
      (e' : Surroundings) : Occasion.IsSilent kind ⟨t', e'.hushed kind, m⟩ := by
    refine ⟨e'.hushed_opening kind, fun r member own => ?_⟩
    rw [show (Occasion.session ⟨t', e'.hushed kind, m⟩).runners = _ from runners] at member
    rcases List.mem_append.mp member with there | last
    · exact (silent m e').without r there own
    · rw [List.mem_singleton.mp last]
      exact without
  cases told : t.cancelled with
  -- A session that was told has told its new runner already.
  | true =>
    have same : t.spawnSilent kind project = t.spawn kind project := by
      simp only [spawnSilent, told, if_true]
      rfl
    rw [same]
    exact .refl kind _ _ _
  | false =>
    -- Otherwise the new runner asks for its watch at once and waits for it ever after.
    let r := Runner.new t.runners.length kind project
    have there : (t.spawn kind project).runners[t.runners.length]? = some r :=
      List.getElem?_concat_length
    have moved : (t.spawn kind project).move (e.hushed kind) (.task (.runner t.runners.length)) =
        some (t.spawnSilent kind project, Surroundings.hushed
          { e.count .runnerBegun with
            requests := e.requests.push (.live kind project, t.credentials) } kind) := by
      have stepped : r.step t.outlet (e.hushed kind) t.credentials (r.cancelled || t.cancelled) =
          some (r.openWatch t.outlet ((e.count .runnerBegun).hushed kind) t.credentials) := by
        rw [told]
        rfl
      rw [show kind = r.kind from rfl, r.openWatch_hushed] at stepped
      simp only [Session.move, step, there]
      refine Option.map_eq_some_iff.mpr ⟨_, stepped, ?_⟩
      simp only [spawn, spawnSilent, told]
      rw [List.set_append_right _ _ (Nat.le_refl _), Nat.sub_self]
      rfl
    have opened : (t.spawnSilent kind project).runners =
        t.runners ++ [{ r with phase := .opening }] := by
      simp [spawnSilent, told, r]
    exact .task moved (silent' rfl rfl _ _) (silent' opened rfl _ _) rfl

/-- Where a runner is due behind an acknowledgment, it is started in the other session too, or one
of the kind waits there for its watch. -/
theorem Mutes.echo_answered (mutes : Mutes kind names s t)
    {start start' : Option (ResourceKind × String)} (starts : t.StartsAlike kind start start')
    {o o' : Outlet} (outlet : o.Mutes kind (Writer.under names) o') (f : Option SessionFailure)
    (free : Writer.runner s.runners.length ∉ o.line)
    (moved : t.move (e.hushed kind) (.task .eventLoop) =
      some (t.acknowledged o' f start', e.hushed kind)) :
    Echoes kind t ⟨s, e, .task .eventLoop⟩ (s.acknowledged o f start) e := by
  have written := mutes.setSelecting outlet f
  rcases starts with rfl | ⟨project, rfl, rfl, there⟩
  · cases start' with
    | none => exact mutes.echo written _ moved rfl
    | some due =>
      obtain ⟨k, project⟩ := due
      by_cases same : k = kind
      · -- A runner of the kind asks in vain for its watch in the other session.
        subst same
        have silent := isSilent_of_peers mutes.peers (e.hushed_opening k) (.task .eventLoop)
        have asks := spawn_goesSilently (t.acknowledged o' f none) e k project fun m e' =>
          isSilent_of_peers written.peers (e'.hushed_opening k) m
        exact ⟨_, names, .trans (.move moved silent (.inl rfl)) (asks.mono fun _ => .inl),
          written.spawnSilent rfl project⟩
      -- A runner of another kind is started in both sessions, under the number that is next in
      -- each.
      · obtain ⟨names₁, after⟩ := written.spawn rfl free same project
        exact mutes.echo after _ moved rfl
  -- One of the kind waits there for its watch already, so none is due.
  · exact mutes.echo (written.spawnOwn rfl there project) _ moved rfl

/-- An acknowledgment is written as it is in the other session. -/
theorem Mutes.echo_acknowledging (mutes : Mutes kind names s t) (sound : s.Sound) {m : Message}
    {stage : WriteStage} {start : Option (ResourceKind × String)}
    (answers : s.loop = .acknowledging m stage start)
    (moved : s.move e (.task .eventLoop) = some (s₁, e₁)) :
    Echoes kind t ⟨s, e, .task .eventLoop⟩ s₁ e₁ := by
  -- What the loop writes is no notification, so it is written in both.
  have silent : (OutFrame.message m).notifies kind = false := by
    have fits := sound.proper.fits .eventLoop
    simp only [writeSide, errand_acknowledging answers, Errand.Fits] at fits
    exact OutFrame.notifies_of_eventLoop fits.2 kind
  obtain ⟨start', answers', starts⟩ := mutes.acknowledging answers
  have steps := stepLoop_steps moved
  cases steps with
  | @wrote m₀ stage₀ stage' o₁ start₀ answers₀ writes =>
    rw [answers] at answers₀
    cases answers₀
    obtain ⟨o₁', writes', outlet'⟩ :=
      mutes.outlet.stepWrite mutes.peers.renames rfl silent writes
    refine mutes.echo (mutes.setAcknowledging outlet' m stage' starts) (.task .eventLoop) ?_ rfl
    simp only [Session.move, step, stepLoop, answers', Surroundings.hushed_now, writes']
  | @answered m₀ stage₀ o₁ ok f start₀ answers₀ writes =>
    rw [answers] at answers₀
    cases answers₀
    obtain ⟨o₁', writes', outlet'⟩ :=
      mutes.outlet.stepWrite mutes.peers.renames rfl silent writes
    refine mutes.echo_answered starts outlet' f (fun member => sound.next_not_in_line ?_) ?_
    · -- Whoever is in line behind a write was so before.
      cases Outlet.stepWrite_writes writes <;> exact List.mem_of_mem_erase member
    · simp only [Session.move, step, stepLoop, answers', Surroundings.hushed_now, writes']
      cases start' <;> rfl
  -- In any other phase the loop does something else.
  | told selects _ => rw [answers] at selects; cases selects
  | failed selects _ _ => rw [answers] at selects; cases selects
  | dispatched selects _ _ _ => rw [answers] at selects; cases selects
  | ended selects _ _ _ _ => rw [answers] at selects; cases selects
  | reaped selects _ _ _ _ _ => rw [answers] at selects; cases selects
  | drained drains _ => rw [answers] at drains; cases drains
  | aborted drains _ => rw [answers] at drains; cases drains

/-- A runner of the kind in the other session that is told to stop does so. -/
theorem Mutes.stopOwn (mutes : Mutes kind names s t) (told : s.cancelled = true)
    (idle : s.loop.start? = none) {k : Nat} {r : Runner} (found : t.runners[k]? = some r)
    (own : r.kind = kind) (runs : r.isRunning = true) :
    ∃ t₂, GoesSilently kind (· = e) [] t (e.hushed kind) t₂ (e.hushed kind) ∧
      Mutes kind names s t₂ ∧
      t₂.runners = t.runners.set k { r with phase := .finished .cancelled } := by
  have loop := mutes.loop_eq idle
  have without := mutes.peers.silent k r found own
  have told' : t.cancelled = true := by
    obtain ⟨_, _, _, _, rfl⟩ := mutes.rest
    exact told
  have alike : r.Alike true r := ⟨rfl, rfl, rfl, fun _ => rfl⟩
  have stepped : ∃ e' : Surroundings,
      r.step t.outlet (e.hushed kind) t.credentials (r.cancelled || t.cancelled) =
        some ({ r with phase := .finished .cancelled }, t.outlet, e'.hushed kind, none) := by
    rw [told', Bool.or_true]
    -- It runs and holds no watch, so it has not begun or waits for its watch.
    cases phase : r.phase with
    | spawned =>
      refine ⟨(r.finish t.outlet (e.count .runnerBegun) .cancelled none).2.2.1, ?_⟩
      simp only [Runner.step, phase, if_true]
      exact congrArg some
        (alike.finish t.outlet t.outlet (e.count .runnerBegun) kind .cancelled none)
    | opening =>
      refine ⟨(r.finish t.outlet e .cancelled none).2.2.1, ?_⟩
      simp only [Runner.step, phase, if_true]
      exact congrArg some (alike.finish t.outlet t.outlet e kind .cancelled none)
    | _ => simp [Runner.isRunning, Runner.watch?, phase] at runs without
  obtain ⟨e', stepped⟩ := stepped
  let t₂ : Session :=
    { t with runners := t.runners.set k { r with phase := .finished .cancelled } }
  -- That step is the one move the other session makes.
  have moved : t.move (e.hushed kind) (.task (.runner k)) = some (t₂, e'.hushed kind) := by
    simp only [Session.move, step, found]
    exact Option.map_eq_some_iff.mpr ⟨_, stepped, rfl⟩
  have after : Mutes kind names s t₂ := by
    obtain ⟨⟨o', l', a', rs', rfl⟩, outlet, -, peers, -, -⟩ := mutes
    exact ⟨⟨o', l', a', _, rfl⟩, outlet, .inl loop, peers.setOwn' found own rfl,
      fun untold => absurd (told.symm.trans untold) (by simp),
      fun untold => absurd (told.symm.trans untold) (by simp)⟩
  exact ⟨t₂, .task moved (isSilent_of_peers mutes.peers (e.hushed_opening kind) _)
    (isSilent_of_peers after.peers (e'.hushed_opening kind) _) rfl, after, rfl⟩

/-- All runners of the kind in the other session stop once they are told to. -/
theorem Mutes.stopAllOwn (mutes : Mutes kind names s t) (told : s.cancelled = true)
    (idle : s.loop.start? = none) (e : Surroundings) :
    ∃ t₂, GoesSilently kind (· = e) [] t (e.hushed kind) t₂ (e.hushed kind) ∧
      Mutes kind names s t₂ ∧ ∀ r ∈ t₂.runners, r.kind = kind →
      r.isRunning = false := by
  -- The runners stop one after the other; the induction is on how many have been looked at.
  have upTo (n : Nat) :
    ∃ t₂, GoesSilently kind (· = e) [] t (e.hushed kind) t₂ (e.hushed kind) ∧
      Mutes kind names s t₂ ∧ t₂.runners.length = t.runners.length ∧
      ∀ k < n, ∀ r, t₂.runners[k]? = some r → r.kind = kind → r.isRunning = false := by
    induction n with
    | zero =>
      exact ⟨t, .refl kind _ t _, mutes, rfl, fun k none => absurd none (Nat.not_lt_zero k)⟩
    | succ n ih =>
      obtain ⟨t₂, goes, mutes₂, length, before⟩ := ih
      by_cases stays : ∃ r, t₂.runners[n]? = some r ∧ r.kind = kind ∧ r.isRunning = true
      · obtain ⟨r, found, own, runs⟩ := stays
        obtain ⟨t₃, goes', mutes₃, runners⟩ := mutes₂.stopOwn told idle found own runs
        -- One more runner of the kind is there, so it stops, and those before it have stopped.
        refine ⟨t₃, goes.trans goes', mutes₃, by simp [runners, length],
          fun k inside q there same => ?_⟩
        rw [runners] at there
        rcases found_of_set there with ⟨-, rfl⟩ | ⟨differ, there⟩
        · rfl
        · exact before k (by omega) q there same
      · refine ⟨t₂, goes, mutes₂, length, fun k inside q there same => ?_⟩
        -- Whoever is there is of another kind or has ended by itself.
        by_cases last : k = n
        · subst last
          exact Bool.eq_false_iff.mpr fun runs => stays ⟨q, there, same, runs⟩
        · exact before k (by omega) q there same
  -- All of them have been looked at in the end.
  obtain ⟨t₂, goes, mutes₂, length, stopped⟩ := upTo t.runners.length
  refine ⟨t₂, goes, mutes₂, fun r member own => ?_⟩
  obtain ⟨k, found⟩ := List.getElem?_of_mem member
  obtain ⟨inside, -⟩ := List.getElem?_eq_some_iff.mp found
  exact stopped k (length ▸ inside) r found own

/-- Where no runner runs, none is stopped from outside. -/
theorem abortRunners_idle (numbered : t.Numbered) (ended : ∀ r ∈ t.runners, r.isRunning = false)
    (e : Surroundings) : t.abortRunners e = (t, e) := by
  -- A runner that has ended is left as it is, so each of them is put back in its place.
  have held :=
    abortRunners_keeps (P := fun x e' => x = t ∧ e' = e) (e := e) numbered ⟨rfl, rfl⟩
    fun {x e' r} found held => ?_
  · exact Prod.ext held.1 held.2
  · obtain ⟨rfl, rfl⟩ := held
    have idle := ended r (List.mem_of_getElem? found)
    obtain ⟨inside, place⟩ := List.getElem?_eq_some_iff.mp found
    have same : x.runners.set r.id r = x.runners := by
      have same := List.set_getElem_self inside
      rwa [place] at same
    simp [abortRunner, Runner.abort, idle, same]

/-- When its time is over, the event loop stops what runners are left. -/
theorem stepLoop_late (numbered : t.Numbered) {deadline : Nat}
    (drains : t.loop = .draining deadline)
    (late : deadline ≤ e.now) : t.stepLoop e =
      some ((t.abortRunners e).1.endLoop (.finished (t.abortRunners e).2.now),
        (t.abortRunners e).2) := by
  -- If all runners have ended, there is none to stop.
  simp only [stepLoop, drains, late, if_true]
  split
  · next ended =>
    rw [abortRunners_idle numbered (by simpa using ended)]
  · rfl

/-- Where no runner runs in the session, none runs in the other but those of the kind. -/
theorem Mutes.stopped (mutes : Mutes kind names s t)
    (ended : ∀ r ∈ s.runners, r.isRunning = false)
    (ownEnded : ∀ r ∈ t.runners, r.kind = kind → r.isRunning = false) :
    ∀ r ∈ t.runners, r.isRunning = false := by
  -- A runner of another kind has its like in the first session.
  intro r' member
  by_cases own : r'.kind = kind
  · exact ownEnded r' member own
  · obtain ⟨k, found'⟩ := List.getElem?_of_mem member
    obtain ⟨i, r, -, found, alike⟩ := mutes.peers.here found' own
    exact alike.isRunning.trans (ended r (List.mem_of_getElem? found))

/-- Both event loops end. -/
theorem Mutes.endLoop (mutes : Mutes kind names s t) (phase : LoopPhase) :
    Mutes kind names (s.endLoop phase) (t.endLoop phase) := by
  obtain ⟨⟨o', l', a', rs', rfl⟩, outlet, -, peers, live, waits⟩ := mutes
  exact ⟨⟨o', _, a', rs', rfl⟩, outlet, .inl rfl, peers, live, waits⟩

/-- The event loop ends behind the runners as it does in the other session. -/
theorem Mutes.echo_draining (mutes : Mutes kind names s t) (sound : s.Sound) (sound' : t.Sound)
    (told : s.cancelled = true) {deadline : Nat} (drains : s.loop = .draining deadline)
    (moved : s.move e (.task .eventLoop) = some (s₁, e₁)) :
    Echoes kind t ⟨s, e, .task .eventLoop⟩ s₁ e₁ := by
  have idle : s.loop.start? = none := by rw [drains]; rfl
  have steps := stepLoop_steps moved
  cases steps with
  | drained drains₀ ended =>
    -- In the other session, the runners of the kind stop before.
    obtain ⟨t₂, goes, mutes₂, ownEnded⟩ := mutes.stopAllOwn told idle e
    have all : (t₂.runners.all fun r => !r.isRunning) = true := by
      simpa using mutes₂.stopped ended ownEnded
    have drains' : t₂.loop = .draining deadline := (mutes₂.loop_eq idle).trans drains
    have moved' : t₂.move (e.hushed kind) (.task .eventLoop) =
        some (t₂.endLoop (.finished e.now), e.hushed kind) := by
      simp only [Session.move, step, stepLoop, drains', all, if_true]
      rfl
    have silent := isSilent_of_peers mutes₂.peers (e.hushed_opening kind) (.task .eventLoop)
    have goes : GoesSilently kind (MetIn [⟨s, e, .task .eventLoop⟩] e) _ _ _ _ _ :=
      goes.mono fun _ => .inl
    exact ⟨_, names, goes.trans (.move moved' silent (.inl rfl)),
      mutes₂.endLoop (.finished e.now)⟩
  | @aborted d drains₀ late =>
    rw [drains] at drains₀
    cases drains₀
    have drains' : t.loop = .draining deadline := (mutes.loop_eq idle).trans drains
    -- At the deadline the loop stops the runners that are left in both sessions, whoever they are.
    obtain ⟨-, now, -⟩ := abortRunners_changes sound.numbered e
    obtain ⟨-, now', openings⟩ := abortRunners_changes sound'.numbered (e.hushed kind)
    have moved' : t.move (e.hushed kind) (.task .eventLoop) = _ :=
      stepLoop_late sound'.numbered drains' (e := e.hushed kind) late
    have clear := ((move_moves moved).sound sound).no_runner_in_line
      (abortRunners_stopped sound.numbered e)
    have clear' := ((move_moves moved').sound sound').no_runner_in_line
      (abortRunners_stopped sound'.numbered (e.hushed kind))
    rw [now'] at moved'
    rw [now]
    have after := mutes.abort sound.numbered sound'.numbered told e (e.hushed kind) clear clear'
      (.finished e.now)
    refine ⟨_, names, .task moved' (isSilent_of_peers mutes.peers (e.hushed_opening kind) _)
      (isSilent_of_peers after.peers ?_ _) (.inl rfl), after⟩
    rw [openings]
    exact e.hushed_opening kind
  -- In any other phase the loop does something else.
  | told selects _ => rw [drains] at selects; cases selects
  | failed selects _ _ => rw [drains] at selects; cases selects
  | dispatched selects _ _ _ => rw [drains] at selects; cases selects
  | ended selects _ _ _ _ => rw [drains] at selects; cases selects
  | reaped selects _ _ _ _ _ => rw [drains] at selects; cases selects
  | wrote answers _ => rw [drains] at answers; cases answers
  | answered answers _ => rw [drains] at answers; cases answers

/-- Every step of the event loop is followed in the other session. -/
theorem Mutes.echo_loop (mutes : Mutes kind names s t) (sound : s.Sound) (sound' : t.Sound)
    (held : Recorded s) (held' : Recorded t)
    (draining : ∀ deadline, s.loop = .draining deadline → s.cancelled = true)
    (moved : s.move e (.task .eventLoop) = some (s₁, e₁)) :
    Echoes kind t ⟨s, e, .task .eventLoop⟩ s₁ e₁ := by
  cases loop : s.loop with
  | selecting => exact mutes.echo_selecting held held' loop moved
  | acknowledging m stage start => exact mutes.echo_acknowledging sound loop moved
  | draining deadline =>
    exact mutes.echo_draining sound sound' (draining deadline loop) loop moved
  | _ => simp [Session.move, step, stepLoop, loop] at moved

/-! ### Runs -/

/-- Every move is followed in the other session, if it ends no write with a failure. -/
theorem Mutes.echoes (mutes : Mutes kind names s t) (begins : Begins s₀)
    (run : Run s₀ e₀ past s e) {e₀' : Surroundings}
    (run' : Run s₀ e₀' past' t (e.hushed kind))
    (holds : Occasion.failsWrite ⟨s, e, m⟩ = false) (moved : s.move e m = some (s₁, e₁)) :
    Echoes kind t ⟨s, e, m⟩ s₁ e₁ := by
  have sound := run.sound begins
  have sound' := run'.sound begins
  cases m with
  | task task =>
    cases task with
    | receiver => exact mutes.echo_receiver moved
    | eventLoop =>
      exact mutes.echo_loop sound sound' (run.recorded begins) (run'.recorded begins)
        (run.draining begins) moved
    | keepAlive => exact mutes.echo_keepAlive moved
    | runner id =>
      cases found : s.runners[id]? with
      | none => simp [Session.move, step, found] at moved
      | some r =>
        -- Only the steps of the runners of the kind are not made in the other session.
        have own := run.reportsOwn begins r (List.mem_of_getElem? found)
        by_cases same : r.kind = kind
        · exact mutes.echo_own sound found own same holds moved
        · exact mutes.echo_runner sound.numbered sound'.numbered found own same moved
    | teardown call => exact mutes.echo_teardown moved
  | _ => exact mutes.echo_input (by simp) moved

/-- A session that has just started stands to itself as to one where no watch of a kind is
opened. -/
theorem Begins.mutes (begins : Begins s) (kind : ResourceKind) :
    Mutes kind (fun _ => none) s s := by
  have runners := begins.runners
  -- Nothing is written yet, and nobody runs or is in line.
  have line : s.outlet.line = [] := by cases begins <;> rfl
  have log : s.outlet.log = #[] := by cases begins <;> rfl
  refine ⟨⟨_, _, _, _, rfl⟩, ⟨rfl, rfl, rfl, by simp [line], by simp [Outlet.story, log]⟩,
    .inl rfl, ?_, fun _ live => live, fun _ id r found => by simp [runners] at found⟩
  rw [runners]
  exact ⟨by simp, by simp, by simp, by simp, by simp⟩

/-- To every run in which no write fails there is one in which no watch of a kind is ever opened,
under the same that is done from outside and in the same surroundings but for the kind. -/
theorem Run.silenced (begins : Begins s₀) (run : Run s₀ e₀ past s e)
    (holds : ∀ o ∈ past, o.failsWrite = false) (kind : ResourceKind) :
    ∃ t names, GoesSilently kind (MetIn past e) (past.filterMap Occasion.input?) s₀
      (e₀.hushed kind) t (e.hushed kind) ∧ Mutes kind names s t := by
  refine run.keeps_along (P := fun past s e => (∀ o ∈ past, o.failsWrite = false) →
    ∃ t names, GoesSilently kind (MetIn past e) (past.filterMap Occasion.input?) s₀
      (e₀.hushed kind) t (e.hushed kind) ∧ Mutes kind names s t)
    (fun _ => ⟨s₀, _, .refl kind _ _ _, begins.mutes kind⟩) ?_ holds
  intro past s s' e e' m run moved ih holds
  -- The other run goes on where it stands by what the last move comes to there.
  obtain ⟨t, names, goes, mutes⟩ := ih fun o member => holds o (List.mem_append_left _ member)
  have last := holds _ (List.mem_append_right _ (List.mem_singleton.mpr rfl))
  obtain ⟨past', run', -⟩ := id goes
  obtain ⟨t₁, names₁, on, mutes₁⟩ := mutes.echoes begins run run' last moved
  refine ⟨t₁, names₁, ?_, mutes₁⟩
  rw [Run.filterMap_concat]
  refine .trans (goes.mono ?_) (on.mono ?_)
  · rintro x (rfl | ⟨o, member, same⟩)
    · exact .inr ⟨_, List.mem_append_right _ (List.mem_singleton.mpr rfl), rfl⟩
    · exact .inr ⟨o, List.mem_append_left _ member, same⟩
  · rintro x (rfl | ⟨o, member, same⟩)
    · exact .inl rfl
    · exact .inr ⟨o, List.mem_append_right _ member, same⟩

end Session

end WatchRelay
