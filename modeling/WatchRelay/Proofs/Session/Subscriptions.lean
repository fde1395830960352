import WatchRelay.Proofs.Session.Origins
import WatchRelay.Proofs.Session.Stopping

/-! What a client's subscriptions come to: one runner for each kind, which asks for one watch. -/

namespace WatchRelay

namespace Runner

variable {r r' : Runner} {o o' : Outlet} {e e' : Surroundings} {credentials : Credentials}
  {stopped : Bool} {f : Option SessionFailure}

/-- A runner that asks for its watch asks for the changes of its kind and project from then on. -/
theorem asks_openWatch (r : Runner) (o : Outlet) (e : Surroundings) (credentials : Credentials) :
    (r.openWatch o e credentials).1.phase ≠ .spawned ∧
      (r.openWatch o e credentials).2.2.1.requests =
        e.requests.push (.live r.kind r.project, credentials) := by
  -- The runner has asked before it is answered, whatever the answer is.
  unfold openWatch
  dsimp only
  split
  · exact ⟨by simp, rfl⟩
  · exact ⟨by simp [finish], (r.onlyCloses_finish _ _ _ _).1⟩
  · exact ⟨by simp, rfl⟩
  · -- A runner that breaks down over it has asked all the same.
    exact ⟨by simp [crash], (r.source_letGo _).1⟩

/-- What a runner makes of a reading asks for no watch. -/
theorem requests_consume {w : Nat} {reading : Reading} {source : Source}
    (consumes : r.consume o { e with source } w reading = some (r', o', e', f)) :
    e'.requests = e.requests := by
  unfold consume at consumes
  split at consumes
  · split at consumes <;> cases consumes <;> rfl
  -- A runner that stops over a reading only closes its watch.
  · cases consumes; exact (r.onlyCloses_finish o { e with source } .streamFailed none).1
  · cases consumes; exact (r.onlyCloses_finish o { e with source } .streamEnded none).1
  · cases consumes; exact (r.source_letGo { e with source }).1
  · cases consumes; rfl
  · cases consumes

/-- A runner asks for a watch in its first step, if at all. -/
theorem Steps.asks (moved : r.Steps o e credentials stopped (r', o', e', f)) :
    r'.phase ≠ .spawned ∧ (e'.requests = e.requests ∨
      r.phase = .spawned ∧
        e'.requests = e.requests.push (.live r.kind r.project, credentials)) := by
  generalize whole : (r', o', e', f) = change at moved
  cases moved with
  | toldFirst _ _ =>
    cases whole
    exact ⟨by simp, .inl (r.onlyCloses_finish o (e.count .runnerBegun) .cancelled none).1⟩
  | opened spawned _ =>
    obtain ⟨begun, asks⟩ := r.asks_openWatch o (e.count .runnerBegun) credentials
    rw [← whole] at begun asks
    exact ⟨begun, .inr ⟨spawned, asks⟩⟩
  | told _ _ =>
    cases whole
    exact ⟨by simp, .inl (r.onlyCloses_finish o e .cancelled none).1⟩
  | consumed waits _ consumes =>
    subst whole
    refine ⟨fun spawned => ?_, .inl (requests_consume consumes)⟩
    -- A runner that reads is past its first step, and stays so.
    unfold consume at consumes
    split at consumes
    · split at consumes <;> cases consumes <;> simp [waits] at spawned
    · cases consumes; simp at spawned
    · cases consumes; simp at spawned
    · cases consumes; simp at spawned
    · cases consumes; simp [waits] at spawned
    · cases consumes
  | wrote _ _ => cases whole; exact ⟨by simp, .inl rfl⟩
  | forwarded _ _ => cases whole; exact ⟨by simp, .inl rfl⟩
  | failed _ _ =>
    cases whole
    exact ⟨by simp, .inl (r.onlyCloses_finish o' e .sinkClosed f).1⟩

end Runner

namespace Session

variable {s s' s₀ : Session} {e e' e₀ : Surroundings} {past : List Occasion}

/-! ### What is asked of the backend -/

/-- What a task asks of the backend in a move, with its credentials. -/
def Occasion.asked (o : Occasion) : List (Task × WatchRequest × Credentials) :=
  match o.move with
  | .task task =>
    match o.session.move o.env o.move with
    | some (_, e') => (e'.requests.toList.drop o.env.requests.size).map fun q => (task, q)
    | none => []
  | _ => []

/-- What the tasks of a session have asked of the backend, in order. -/
def asked (past : List Occasion) : List (Task × WatchRequest × Credentials) :=
  past.flatMap Occasion.asked

/-- A step of the event loop asks for no watch. -/
theorem LoopSteps.requests (numbered : s.Numbered) (moved : s.LoopSteps e s' e') :
    e'.requests = e.requests := by
  cases moved with
  | aborted _ _ =>
    -- Runners that are stopped from outside only close their watches.
    refine abortRunners_keeps (P := fun _ x => x.requests = e.requests) numbered rfl
      fun {t x r} _ held => Eq.trans ?_ held
    show (r.abort t.outlet x).2.2.requests = x.requests
    unfold Runner.abort
    split
    · dsimp only
      split <;> exact (r.source_letGo x).1
    · rfl
  | _ => rfl

/-- In a step of a task, one watch is asked for, by a runner that has just been started, or none. -/
theorem Moves.requests {task : Task} (numbered : s.Numbered)
    (moved : s.Moves e (.task task) s' e') :
    e'.requests = e.requests ∨ ∃ id r, task = .runner id ∧ s.runners[id]? = some r ∧
      r.phase = .spawned ∧ e'.requests =
        e.requests.push (.live r.kind r.project, s.credentials) := by
  -- Only a runner asks for anything, at its first step.
  cases moved with
  | received _ => exact .inl rfl
  | looped steps => exact .inl (steps.requests numbered)
  | keptAlive _ => exact .inl rfl
  | ran found steps =>
    rcases steps.asks.2 with same | ⟨spawned, asks⟩
    · exact .inl same
    · exact .inr ⟨_, _, rfl, found, spawned, asks⟩
  | closed steps => cases steps <;> exact .inl rfl

/-- What is asked for in a move. -/
theorem asked_of {m : Move} (numbered : s.Numbered) (moved : s.move e m = some (s', e')) :
    Occasion.asked ⟨s, e, m⟩ = [] ∨ ∃ id r, m = .task (.runner id) ∧
    s.runners[id]? = some r ∧
      r.phase = .spawned ∧
      Occasion.asked ⟨s, e, m⟩ = [(.runner id, .live r.kind r.project, s.credentials)] := by
  cases m with
  | task task =>
    -- What was asked in a move is what the record of requests has grown by.
    have asks : Occasion.asked ⟨s, e, .task task⟩ =
        (e'.requests.toList.drop e.requests.size).map fun q => (task, q) := by
      simp [Occasion.asked, moved]
    rcases (move_moves moved).requests numbered with same | ⟨id, r, rfl, found, spawned, more⟩
    · exact .inl (by simp [asks, same])
    · exact .inr ⟨id, r, rfl, found, spawned, by simp [asks, more]⟩
  | _ => exact .inl rfl

/-- The credentials of a session stay the same. -/
theorem Moves.credentials {m : Move} (numbered : s.Numbered) (moved : s.Moves e m s' e') :
    s'.credentials = s.credentials := by
  -- The credentials are set at the start, and all steps keep them.
  cases moved with
  | looped steps =>
    cases steps with
    | told _ _ => exact (leave_work s s.alarms .away e.now).credentials
    | failed _ _ _ => exact (leave_work s _ _ e.now).credentials
    | dispatched _ _ _ _ => exact (dispatch_dispatches _ _).credentials
    | ended _ _ _ _ _ => exact (leave_work s s.alarms s.closeCode e.now).credentials
    | @answered _ _ _ _ _ start _ _ => cases start <;> rfl
    | aborted _ _ =>
      exact abortRunners_keeps (P := fun t _ => t.credentials = s.credentials) numbered rfl
        fun _ held => held
    | _ => rfl
  | closed steps => cases steps <;> rfl
  | _ => rfl

/-- What is known of what the tasks of a session have asked of the backend. -/
structure Asking (credentials : Credentials) (past : List Occasion) (s : Session) : Prop where
  same : s.credentials = credentials
  /-- Only runners ask, once they have begun, each for its own kind and project. -/
  each : ∀ task q c, (task, q, c) ∈ asked past → c = credentials ∧
    ∃ id r, task = .runner id ∧ s.runners[id]? = some r ∧ r.phase ≠ .spawned ∧
      q = .live r.kind r.project
  once : ((asked past).map (·.1)).Nodup

/-- A runner that has begun has done so for good. -/
theorem Fate.begun {m : Move} {id : Nat} {r r' : Runner} (fate : Fate s e m s' e' id r r')
    (begun : r.phase ≠ .spawned) : r'.phase ≠ .spawned := by
  -- A runner that has begun never goes back to before it has.
  cases fate with
  | stepped _ steps _ => exact steps.asks.1
  | kept _ same _ =>
    rw [Runner.phase_of_core same]
    exact begun
  | stopped _ _ same _ =>
    rw [same]
    simp

/-- Every move keeps that. -/
theorem Asking.step {credentials : Credentials} {m : Move} (held : Asking credentials past s)
    (sound : s.Sound) (moved : s.move e m = some (s', e')) (accounts : Accounts s e m s' e') :
    Asking credentials (past ++ [⟨s, e, m⟩]) s' := by
  have moves := move_moves moved
  have numbered := sound.numbered
  have whole : asked (past ++ [⟨s, e, m⟩]) = asked past ++ Occasion.asked ⟨s, e, m⟩ := by
    simp [asked]
  -- Whoever has asked before is there after the move, for the same kind and project.
  have earlier (task : Task) (q : WatchRequest) (c : Credentials)
    (member : (task, q, c) ∈ asked past) :
      c = credentials ∧ ∃ id r, task = .runner id ∧ s'.runners[id]? = some r ∧
        r.phase ≠ .spawned ∧ q = .live r.kind r.project := by
    obtain ⟨own, id, r, rfl, found, begun, rfl⟩ := held.each task q c member
    obtain ⟨r', found', fate⟩ := accounts.later (moves.runners_length numbered) found
    exact ⟨own, id, r', rfl, found', fate.begun begun, by rw [fate.scope.1, fate.scope.2]⟩
  refine ⟨(moves.credentials numbered).trans held.same, fun task q c member => ?_, ?_⟩
  · rw [whole] at member
    rcases List.mem_append.mp member with before | now
    · exact earlier task q c before
    · rcases asked_of numbered moved with none | ⟨id, r, rfl, found, -, one⟩
      -- Only a runner's first step asks, and it asks for its own kind and project.
      · rw [none] at now
        cases now
      · rw [one] at now
        cases List.mem_singleton.mp now
        obtain ⟨r', found', fate⟩ := accounts.later (moves.runners_length numbered) found
        refine ⟨held.same, id, r', rfl, found', ?_, by rw [fate.scope.1, fate.scope.2]⟩
        cases fate with
        | stepped _ steps _ => exact steps.asks.1
        | kept other _ _ => exact absurd rfl other
        | stopped other _ _ _ => exact absurd rfl other
  · rw [whole, List.map_append]
    rcases asked_of numbered moved with none | ⟨id, r, rfl, found, spawned, one⟩
    · rw [none]
      simpa using held.once
    · -- A runner that asks has not begun before, so it has asked for nothing.
      rw [one]
      refine List.nodup_append.mpr ⟨held.once, by simp, ?_⟩
      intro task before other now
      obtain rfl := List.mem_singleton.mp now
      obtain ⟨⟨task, q, c⟩, member, rfl⟩ := List.mem_map.mp before
      obtain ⟨-, own, r', same, found', begun, -⟩ := held.each task q c member
      rintro rfl
      cases same
      rw [found] at found'
      cases found'
      exact begun spawned

/-- In any run, each watch that is asked for is asked for by a runner of the session, and by each
runner only one. -/
theorem Run.asking (begins : Begins s₀) (run : Run s₀ e₀ past s e) :
    Asking s₀.credentials past s :=
  run.keeps_along (P := fun past s _ => Asking s₀.credentials past s)
    ⟨rfl, fun _ _ _ member => (by cases member), List.nodup_nil⟩ fun run moved held =>
      held.step (run.sound begins) moved (run.accounts begins moved)

/-- What is asked for in a step of a task comes behind what was asked before. -/
theorem Run.requests_grow (begins : Begins s₀) (run : Run s₀ e₀ past s e) {o : Occasion}
    (member : o ∈ past) {task : Task} (own : o.move = .task task) {s₁ : Session}
    {e₁ : Surroundings}
    (moved : o.session.move o.env o.move = some (s₁, e₁)) :
    e₁.requests.toList = o.env.requests.toList ++ o.asked.map (·.2) := by
  -- The occasion stands somewhere in the run, and its session is one of the run.
  obtain ⟨before, after, rfl⟩ := List.append_of_mem member
  obtain ⟨-, -, first, -, -⟩ := run.split
  obtain ⟨session, env, move⟩ := o
  have own : move = .task task := own
  subst own
  have asks : Occasion.asked ⟨session, env, .task task⟩ =
      (e₁.requests.toList.drop env.requests.size).map fun q => (task, q) := by
    simp only [Occasion.asked]
    rw [moved]
  rw [asks, List.map_map]
  rcases (move_moves moved).requests (first.sound begins).numbered with
    same | ⟨id, r, rfl, found, spawned, more⟩
  · simp [same]
  · simp [more]

/-! ### Subscriptions to kinds that have a runner -/

/-- A subscription to a kind whose runner on record runs leaves the runners and their records as
they are, and none is due behind its acknowledgment. -/
theorem move_of_running {kind : ResourceKind} {project : String}
    (takes : s.takes? = some (.subscribe (.known kind) project))
    (runs : (s.active.get kind).any s.runs = true) :
    ∃ t, s.move e (.task .eventLoop) = some (t, e) ∧ t.runners = s.runners ∧
      t.active = s.active ∧ t.loop.start? = none := by
  -- A subscription of a kind that runs is acknowledged and nothing else.
  obtain ⟨rest, -, acts⟩ := move_of_takes (e := e) takes
  let taken := { s with receiver := { s.receiver with queue := rest } }
  have still : (taken.active.get kind).any taken.runs = true := runs
  have same : taken.dispatch (.subscribe (.known kind) project) =
      taken.acknowledge (.subscribed (.known kind)) none := by
    simp [dispatch, Kind.resource?, still]
  exact ⟨_, acts.trans (congrArg (fun t => some (t, e)) same), rfl, rfl, rfl⟩

/-- Where no runner is due, none is started. -/
theorem Moves.starts_none {m : Move} (numbered : s.Numbered) (moved : s.Moves e m s' e')
    (settled : s.loop.start? = none) : s'.runners.length = s.runners.length := by
  refine Nat.le_antisymm (Nat.not_lt.mp fun more => ?_) (moved.runners_length numbered)
  have found := List.getElem?_eq_getElem more
  -- The first runner that is new is the one that was due.
  obtain ⟨_, _, _, _, _, _, _, -, answers, -⟩ :=
    moved.started numbered (List.getElem?_eq_none (Nat.le_refl _)) found
  rw [answers] at settled
  cases settled

/-- Where nothing is taken, no runner becomes due. -/
theorem Moves.settled_idle {m : Move} (moved : s.Moves e m s' e')
    (idle : Occasion.taken? ⟨s, e, m⟩ = none) (settled : s.loop.start? = none) :
    s'.loop.start? = none := by
  -- Only taking a request sets up a start, and none is taken.
  cases moved with
  | looped steps =>
    cases steps with
    | dispatched selects untold calm waiting =>
      simp [Occasion.taken?, takes?, selects, untold, calm, waiting] at idle
    | reaped _ _ _ _ _ _ => exact settled
    | wrote answers _ =>
      rw [answers] at settled
      exact settled
    | @answered _ _ _ _ _ start _ _ => cases start <;> rfl
    | _ => rfl
  | closed steps => cases steps <;> exact settled
  | _ => exact settled

/-- While nothing is taken and no runner is due, none is started. -/
theorem Run.starts_none (sound : s₀.Sound) (run : Run s₀ e₀ past s e)
    (settled : s₀.loop.start? = none) (idle : ∀ o ∈ past, o.taken? = none) :
    s.runners.length = s₀.runners.length := by
  -- As long as no request is taken, nothing starts.
  have held := run.traces (P := fun past t _ => (∀ o ∈ past, o.taken? = none) →
    t.Sound ∧ t.loop.start? = none ∧ t.runners.length = s₀.runners.length)
    (fun _ => ⟨sound, settled, rfl⟩) ?_ idle
  · exact held.2.2
  · intro past t t' x x' m moved held idle
    obtain ⟨sound, settled, same⟩ := held fun o member => idle o (List.mem_append_left _ member)
    have moves := move_moves moved
    have last := idle _ (List.mem_append_right _ (List.mem_singleton.mpr rfl))
    exact ⟨moves.sound sound, moves.settled_idle last settled,
      (moves.starts_none sound.numbered settled).trans same⟩

/-- For each kind, at most one runner runs that is not told to stop, and it is the one on record.

On record are runners of the kind whose end nobody has taken note of.
They are told to stop only with the whole session.

While the session goes on and no end is left to take note of, the record says who runs.
A kind is on record if and only if such a runner runs.

Watches are asked for by runners alone, by each at most once, with the session's credentials.
They are for what changes from then on in the kind and project of the subscription.

A subscription to a kind whose runner on record runs starts nothing.
It leaves all runners and watches as they are. -/
theorem records_match_runners (begins : Begins s₀) (run : Run s₀ e₀ past s e) :
    (∀ (id other : Nat) (r q : Runner), s.runners[id]? = some r → s.runners[other]? = some q →
      r.isRunning = true → s.isTold r = false → q.isRunning = true → s.isTold q = false →
      q.kind = r.kind → other = id ∧ s.active.get r.kind = some id) ∧
    (∀ kind id, s.active.get kind = some id → ∃ r, s.runners[id]? = some r ∧
      r.kind = kind ∧
      s.isTold r = s.cancelled ∧ r.joined = false) ∧
    (s.cancelled = false → (∀ r ∈ s.runners, r.isRunning = true ∨ r.joined = true) →
      ∀ kind, (s.active.get kind).isSome = true ↔
        ∃ r ∈ s.runners, r.kind = kind ∧ r.isRunning = true ∧ s.isTold r = false) ∧
    (∀ task q c, (task, q, c) ∈ asked past → c = s₀.credentials ∧
      ∃ id r taken started, task = .runner id ∧ s.runners[id]? = some r ∧
        q = .live r.kind r.project ∧ Origin past id r.kind r.project taken started) ∧
    ((asked past).map (·.1)).Nodup ∧
    (∀ o ∈ past, ∀ task s₁ e₁, o.move = .task task →
      o.session.move o.env o.move = some (s₁, e₁) →
      e₁.requests.toList = o.env.requests.toList ++ o.asked.map (·.2)) ∧
    ∀ kind project s₁ e₁, s.takes? = some (.subscribe (.known kind) project) →
      (s.active.get kind).any s.runs = true → s.move e (.task .eventLoop) = some (s₁, e₁) →
      s₁.runners = s.runners ∧ s₁.active = s.active ∧ e₁ = e ∧
      ∀ more s' e', Run s₁ e₁ more s' e' → (∀ o ∈ more, o.taken? = none) →
        s'.runners.length = s.runners.length := by
  have recorded := run.recorded begins
  have asking := run.asking begins
  refine ⟨fun id other r q found found' runs untold runs' untold' kind => ?_,
    fun kind id there => ?_,
    fun alive noted kind => ⟨fun there => ?_, fun ⟨r, member, same, runs, untold⟩ => ?_⟩,
    fun task q c member => ?_, asking.once, fun o member task s₁ e₁ own moved => ?_,
    fun kind project s₁ e₁ takes runs moved => ?_⟩
  -- Two running runners of a kind would both be the one on record.
  · have own := recorded.live id r found runs untold
    have others := recorded.live other q found' runs' untold'
    rw [kind, own] at others
    exact ⟨(Option.some.inj others).symm, own⟩
  · obtain ⟨r, found, same, untold, unjoined⟩ := recorded.entry kind id there
    exact ⟨r, found, same, by simp [isTold, untold], unjoined⟩
  · obtain ⟨id, there⟩ := Option.isSome_iff_exists.mp there
    obtain ⟨r, found, same, untold, unjoined⟩ := recorded.entry kind id there
    have member := List.mem_of_getElem? found
    refine ⟨r, member, same, ?_, by simp [isTold, untold, alive]⟩
    -- A runner that has stopped would have been taken note of.
    rcases noted r member with runs | ended
    · exact runs
    · rw [unjoined] at ended
      cases ended
  · obtain ⟨id, found⟩ := List.getElem?_of_mem member
    rw [← same, recorded.live id r found runs untold]
    rfl
  · obtain ⟨own, id, r, rfl, found, -, rfl⟩ := asking.each task q c member
    obtain ⟨taken, started, origin⟩ := (run.begun begins).origin id r found
    exact ⟨own, id, r, taken, started, rfl, found, rfl, origin⟩
  · exact run.requests_grow begins member own moved
  -- A subscribe for a running kind is answered like any other and starts nothing.
  · obtain ⟨t, acts, runners, active, settled⟩ := move_of_running (e := e) takes runs
    have sound := (run.next acts).sound begins
    rw [acts] at moved
    cases moved
    refine ⟨runners, active, rfl, fun more s' e' later idle => ?_⟩
    rw [later.starts_none sound settled idle, runners]

/-- A client that subscribes twice to a kind has one runner, for what it asked for first. -/
theorem records_match_runners_subscribed :
    let project (name : String) : Request := .subscribe (.known .registry) name
    ∃ past s e, Run (.start {} default .clear 0 false)
        (.start (.of (.catalog (Hub.empty 4 false)))) past s e ∧
      taken past = [project "p", project "q"] ∧ s.runners.length = 1 ∧
      asked past = [(.runner 0, .live .registry "p", default)] ∧
      (∃ r ∈ s.runners, r.kind = .registry ∧ r.isRunning = true ∧ s.isTold r = false) ∧
      ∃ taken started, Origin past 0 .registry "p" taken started := by
  intro project
  let asks (name : String) : List Move :=
    [.arrive (.text ("\x7b\"op\":\"subscribe\",\"kind\":\"Registry\",\"project\":\"" ++ name ++
      "\"\x7d")), .task .receiver, .task .receiver, .task .eventLoop, .task .eventLoop,
      .task .eventLoop, .task .eventLoop]
  have plays : ((play (.start {} default .clear 0 false)
      (.start (.of (.catalog (Hub.empty 4 false))))
      (asks "p" ++ .task (.runner 0) :: asks "q")).any fun p =>
        decide (taken p.1 = [project "p", project "q"] ∧ p.2.1.runners.length = 1 ∧
          asked p.1 = [(.runner 0, .live .registry "p", default)] ∧ p.2.1.cancelled = false ∧
          (∀ r ∈ p.2.1.runners, r.isRunning = true ∨ r.joined = true) ∧
          (p.2.1.active.get .registry).isSome = true)) = true := by
    decide +kernel
  obtain ⟨⟨past, s, e⟩, played, checked⟩ := (Option.any_eq_true _ _).mp plays
  obtain ⟨taken, one, asked, alive, noted, recorded⟩ := of_decide_eq_true checked
  have run := Run.of_play played
  obtain ⟨-, -, live, each, -⟩ := records_match_runners (.attended _ _ _ _ _) run
  obtain ⟨-, id, r, first, started, own, -, asks, origin⟩ :=
    each (.runner 0) (.live .registry "p") default (by rw [asked]; exact List.mem_cons_self)
  -- The watch that is asked for tells what the runner was started for.
  cases own
  obtain ⟨kind, scope, -⟩ := WatchRequest.mk.inj asks
  rw [← kind, ← scope] at origin
  exact ⟨past, s, e, run, taken, one, asked, (live alive noted .registry).mp recorded, first,
    started, origin⟩

end Session

end WatchRelay
