import WatchRelay.Proofs.Session.Failing

/-! What becomes of a runner in a move: it takes a step, or goes on as it was, or is stopped from
outside. -/

namespace WatchRelay

/-- A runner that takes steps runs. -/
theorem Runner.Steps.running {r : Runner} {o : Outlet} {e : Surroundings}
    {credentials : Credentials} {stopped : Bool} {change : Runner.Change}
    (moved : r.Steps o e credentials stopped change) : r.isRunning = true := by
  -- A runner steps from the four phases in which it runs, and from no other.
  cases moved with
  | toldFirst spawned _ => simp [Runner.isRunning, spawned]
  | opened spawned _ => simp [Runner.isRunning, spawned]
  | told waits _ =>
    rcases waits with waits | ⟨_, waits⟩ <;> simp [Runner.isRunning, waits]
  | consumed waits _ _ => simp [Runner.isRunning, waits]
  | wrote forwards _ => simp [Runner.isRunning, forwards]
  | forwarded forwards _ => simp [Runner.isRunning, forwards]
  | failed forwards _ => simp [Runner.isRunning, forwards]

namespace Session

variable {s s' s₀ : Session} {e e' e₀ : Surroundings}

/-- What becomes of a runner in a move of its session. -/
inductive Fate (s : Session) (e : Surroundings) (m : Move) (s' : Session) (e' : Surroundings)
    (id : Nat) (r r' : Runner) : Prop where
  | stepped {f : Option SessionFailure} (own : m = .task (.runner id))
      (steps : r.Steps s.outlet e s.credentials (s.isTold r) (r', s'.outlet, e', f))
      (told : s.isTold r = true → s'.isTold r' = true)
  /-- At most it is told to stop. -/
  | kept (other : m ≠ .task (.runner id)) (same : r'.core = r.core)
      (told : s.isTold r = true → s'.isTold r' = true)
  | stopped (other : m ≠ .task (.runner id)) (ran : r.isRunning = true)
      (same : r' = { r with phase := .aborted }) (told : s'.isTold r' = true)

/-- A runner keeps its kind and its project. -/
theorem Fate.scope {m : Move} {id : Nat} {r r' : Runner} (fate : Fate s e m s' e' id r r') :
    r'.kind = r.kind ∧ r'.project = r.project := by
  cases fate with
  | stepped _ steps _ =>
    obtain ⟨phase, rfl⟩ := steps.phase
    exact ⟨rfl, rfl⟩
  | kept _ same _ =>
    -- What the session notes about a runner is neither its kind nor its project.
    have kind : r'.core.kind = r.core.kind := by rw [same]
    have project : r'.core.project = r.core.project := by rw [same]
    exact ⟨kind, project⟩
  | stopped _ _ same _ => exact same ▸ ⟨rfl, rfl⟩

/-- A runner that is told to stop stays told. -/
theorem Fate.told {m : Move} {id : Nat} {r r' : Runner} (fate : Fate s e m s' e' id r r')
    (told : s.isTold r = true) : s'.isTold r' = true := by
  -- What the runner has been told is kept, and a runner that is stopped is told by that.
  cases fate with
  | stepped _ _ stays => exact stays told
  | kept _ _ stays => exact stays told
  | stopped _ _ _ now => exact now

/-- In a session that is told to end, every runner is told to stop. -/
theorem isTold_of_cancelled (cancelled : s.cancelled = true) (r : Runner) : s.isTold r = true := by
  simp [isTold, cancelled]

/-- Where something about the runners is the same in each place, it is so for each of them. -/
theorem found_of_map {α : Type} {f : Runner → α} {runners runners' : List Runner}
    (same : runners'.map f = runners.map f) {id : Nat} {r' : Runner}
    (found : runners'[id]? = some r') : ∃ r, runners[id]? = some r ∧ f r' = f r := by
  -- In the same place stood a runner of which it holds too.
  have place := congrArg (fun l => l[id]?) same
  simp only [List.getElem?_map, found, Option.map_some] at place
  cases before : runners[id]? with
  | none => simp [before] at place
  | some r => exact ⟨r, rfl, by simpa [before] using place⟩

/-- A runner stands where it stood when one of them is told or noted something. -/
theorem found_of_modify {runners : List Runner} {k id : Nat} {f : Runner → Runner} {r' : Runner}
    (found : (runners.modify k f)[id]? = some r') :
    ∃ r, runners[id]? = some r ∧ (r' = r ∨ r' = f r) := by
  -- The runner in this place was there before, and was changed if it is the one.
  rw [List.getElem?_modify] at found
  obtain ⟨r, before, same⟩ := Option.map_eq_some_iff.mp found
  refine ⟨r, before, ?_⟩
  split at same
  · exact .inr same.symm
  · exact .inl same.symm

/-- A runner that stands in a place when one is replaced is the new one, or stood there before. -/
theorem found_of_set {runners : List Runner} {id k : Nat} {r q : Runner}
    (there : (runners.set id r)[k]? = some q) :
    id = k ∧ q = r ∨ id ≠ k ∧ runners[k]? = some q := by
  -- In the place that is set stands the new one, and the others are not touched.
  by_cases same : id = k
  · subst same
    obtain ⟨inside, -⟩ := List.getElem?_eq_some_iff.mp there
    have inside : id < runners.length := by simpa using inside
    rw [List.getElem?_set_self inside] at there
    exact .inl ⟨rfl, (Option.some.inj there).symm⟩
  · rw [List.getElem?_set_ne same] at there
    exact .inr ⟨same, there⟩

/-- A runner that stands in a place when another is added stood there before, or is that other. -/
theorem found_of_concat {runners : List Runner} {added r : Runner} {id : Nat}
    (found : (runners ++ [added])[id]? = some r) :
    runners[id]? = some r ∨ runners[id]? = none ∧ id = runners.length ∧ r = added := by
  -- The one found stands among the old ones, or behind them all in the last place.
  rw [List.getElem?_append] at found
  split at found
  · exact .inl found
  · next outside =>
    obtain ⟨place, same⟩ := List.getElem?_eq_some_iff.mp found
    simp only [List.length_singleton] at place
    refine .inr ⟨List.getElem?_eq_none (by omega), by omega, ?_⟩
    simpa using same.symm

/-- A runner whose kind is released goes on, told to stop or not. -/
theorem release_fate {t : Session} (runners : t.runners = s.runners)
    (cancelled : t.cancelled = s.cancelled) (kind : ResourceKind) {id : Nat} {r' : Runner}
    (found : (t.release kind).runners[id]? = some r') :
    ∃ r, s.runners[id]? = some r ∧ r'.core = r.core ∧
      (s.isTold r = true → (t.release kind).isTold r' = true) := by
  have same := (t.release_loop kind).2.1.trans cancelled
  unfold release at found
  split at found
  · -- The runner of the kind is told to stop, and the others go on as they were.
    obtain ⟨r, before, which⟩ := found_of_modify found
    rw [runners] at before
    refine ⟨r, before, ?_, fun told => ?_⟩
    · rcases which with rfl | rfl <;> rfl
    · rw [isTold, same]
      rcases which with rfl | rfl
      · exact told
      · rfl
  · rw [runners] at found
    refine ⟨r', found, rfl, fun told => ?_⟩
    rw [isTold, same]
    exact told

/-- Stopping the runners from outside stops those that run. -/
theorem abortRunners_found (numbered : s.Numbered) (e : Surroundings) {id : Nat} {r' : Runner}
    (found : (s.abortRunners e).1.runners[id]? = some r') :
    ∃ r, s.runners[id]? = some r ∧
      (r' = r ∨ r.isRunning = true ∧ r' = { r with phase := .aborted }) := by
  -- Along the way, each runner is as it was or stopped while it ran.
  have held := abortRunners_keeps (e := e)
    (P := fun t _ => ∀ (id : Nat) (r' : Runner), t.runners[id]? = some r' →
      ∃ r : Runner, s.runners[id]? = some r ∧
      (r' = r ∨ r.isRunning = true ∧ r' = { r with phase := .aborted }))
    numbered (fun _ r there => ⟨r, there, .inl rfl⟩) ?_
  · exact held id r' found
  · intro t x q there held id r' found
    -- The runner that is stopped runs, or it is left as it is.
    by_cases same : id = q.id
    · obtain ⟨r, before, which⟩ := held q.id q there
      obtain ⟨inside, -⟩ := List.getElem?_eq_some_iff.mp there
      have own : r' = (q.abort t.outlet x).1 := by
        simpa [abortRunner, same, inside] using found.symm
      refine ⟨r, same ▸ before, ?_⟩
      unfold Runner.abort at own
      split at own
      · next runs =>
        rcases which with rfl | ⟨ran, rfl⟩
        · exact .inr ⟨runs, own⟩
        · cases runs
      · exact own ▸ which
    · have other : t.runners[id]? = some r' := by
        simpa [abortRunner, List.getElem?_set_ne (Ne.symm same)] using found
      exact held id r' other

/-- A runner that is there after a move is new, or something became of it in the move. -/
def Accounts (s : Session) (e : Surroundings) (m : Move) (s' : Session) (e' : Surroundings) :
    Prop :=
  ∀ id r', s'.runners[id]? = some r' →
    s.runners[id]? = none ∧ r'.phase = .spawned ∧ m ≠ .task (.runner id) ∨
      ∃ r, s.runners[id]? = some r ∧ Fate s e m s' e' id r r'

/-- Where the runners are the same and no more are told to stop, each is kept. -/
theorem Accounts.same {m : Move} (other : ∀ id, m ≠ .task (.runner id))
    (runners : s'.runners = s.runners) (told : s.cancelled = true → s'.cancelled = true) :
    Accounts s e m s' e' := by
  intro id r found
  rw [runners] at found
  refine .inr ⟨r, found, .kept (other id) rfl fun before => ?_⟩
  -- A runner that is told to stop is told so by itself, or because the session ends.
  simp only [isTold, Bool.or_eq_true] at before ⊢
  rcases before with own | ends
  · exact .inl own
  · exact .inr (told ends)

/-- Where the runners do the same and all are told to stop, each is kept. -/
theorem Accounts.ends {m : Move} (other : ∀ id, m ≠ .task (.runner id))
    (same : s'.runners.map Runner.core = s.runners.map Runner.core)
    (cancelled : s'.cancelled = true) : Accounts s e m s' e' := by
  -- Every runner was there before, and all of them are told that the session ends.
  intro id r' found
  obtain ⟨r, before, work⟩ := found_of_map same found
  exact .inr ⟨r, before, .kept (other id) work fun _ => isTold_of_cancelled cancelled r'⟩

/-- A session whose event loop is left is told to end. -/
theorem leave_cancelled (s : Session) (alarms : Alarms) (code : CloseCode) (now : Nat) :
    ({ s with alarms, closeCode := code }.leave now).cancelled = true := by
  -- Leaving sets the token, and releasing the kinds does not take it back.
  obtain ⟨cancelled, -, -⟩ := foldl_release_loop ResourceKind.all
    { s with alarms, closeCode := code }.beginClosing
  exact cancelled

/-- What becomes of the runners in a step of the event loop. -/
theorem LoopSteps.accounts (numbered : s.Numbered)
    (draining : ∀ deadline, s.loop = .draining deadline → s.cancelled = true)
    (moved : s.LoopSteps e s' e') : Accounts s e (.task .eventLoop) s' e' := by
  have other (id : Nat) : Move.task .eventLoop ≠ .task (.runner id) := by simp
  have leaves (alarms : Alarms) (code : CloseCode) : Accounts s e (.task .eventLoop)
      ({ s with alarms, closeCode := code }.leave e.now) e' :=
    .ends other (leave_work s alarms code e.now).runners (leave_cancelled s alarms code e.now)
  -- A loop that leaves tells all runners to stop.
  cases moved with
  | told _ _ => exact leaves s.alarms .away
  | failed _ _ _ => exact leaves _ _
  | @dispatched request rest _ _ _ _ =>
    have acts :=
      dispatch_dispatches { s with receiver := { s.receiver with queue := rest } } request
    generalize dispatch _ request = s' at acts
    cases acts with
    | ignored _ => exact .same other rfl id
    | acknowledged _ released _ =>
      rcases released with rfl | ⟨kind, rfl⟩
      · exact .same other rfl id
      · -- The runner of the kind may be told to stop.
        intro id r' found
        obtain ⟨r, before, same, told⟩ := release_fate rfl rfl kind found
        exact .inr ⟨r, before, .kept (other id) same told⟩
  | ended _ _ _ _ _ => exact leaves s.alarms s.closeCode
  | @reaped r₀ _ _ _ _ _ _ =>
    -- That the end of a runner is taken note of is nothing to what it is doing.
    intro id r' found
    obtain ⟨r, before, which⟩ := found_of_modify found
    refine .inr ⟨r, before, .kept (other id) ?_ fun told => ?_⟩
    · rcases which with rfl | rfl <;> rfl
    · rcases which with rfl | rfl <;> exact told
  | wrote _ _ => exact .same other rfl id
  | @answered _ _ _ _ _ start _ _ =>
    cases start with
    | none => exact .same other rfl id
    | some due =>
      intro id r' found
      -- The runner that is started comes behind those that are there.
      rcases found_of_concat found with there | ⟨missing, -, rfl⟩
      · exact .inr ⟨r', there, .kept (other id) rfl fun told => told⟩
      · exact .inl ⟨missing, rfl, other id⟩
  | drained _ _ => exact .same other rfl id
  | aborted drains _ =>
    -- The loop waits for the runners only in a session that is told to end.
    intro id r' found
    have cancelled := (LoopSteps.ongoing numbered (.aborted drains (by assumption))).told
      (draining _ drains)
    obtain ⟨r, before, rfl | ⟨ran, same⟩⟩ := abortRunners_found numbered e found
    · exact .inr ⟨_, before, .kept (other id) rfl fun _ => isTold_of_cancelled cancelled _⟩
    · exact .inr ⟨r, before, .stopped (other id) ran same (isTold_of_cancelled cancelled _)⟩

/-- What becomes of the runners in every move. -/
theorem Moves.accounts {m : Move} (numbered : s.Numbered)
    (draining : ∀ deadline, s.loop = .draining deadline → s.cancelled = true)
    (moved : s.Moves e m s' e') : Accounts s e m s' e' := by
  cases moved with
  | looped steps => exact steps.accounts numbered draining
  | @ran id r r' o _ f found steps =>
    -- The runner takes its step, and the others are as they were.
    intro other q there
    rcases found_of_set there with ⟨rfl, rfl⟩ | ⟨differ, there⟩
    · refine .inr ⟨r, found, .stepped rfl steps fun told => ?_⟩
      obtain ⟨phase, rfl⟩ := steps.phase
      exact told
    · refine .inr ⟨q, there, .kept ?_ rfl fun told => told⟩
      simpa using differ
  | closed steps => cases steps <;> exact .same (by simp) rfl id
  | told => exact .same (by simp) rfl fun _ => rfl
  | called _ => exact .same (by simp) rfl fun _ => rfl
  | _ => exact .same (by simp) rfl id

/-- A session whose event loop waits for the runners to stop is told to end. -/
theorem Moves.draining {m : Move} (moved : s.Moves e m s' e')
    (draining : ∀ deadline, s.loop = .draining deadline → s.cancelled = true) (deadline : Nat)
    (drains : s'.loop = .draining deadline) : s'.cancelled = true := by
  cases moved with
  | looped steps =>
    cases steps with
    | told _ _ => exact leave_cancelled s s.alarms .away e.now
    | failed _ _ _ => exact leave_cancelled s _ _ e.now
    | @dispatched request rest _ _ _ _ =>
      -- An acknowledgment is written, or the loop goes on selecting.
      have acts := dispatch_dispatches
        { s with receiver := { s.receiver with queue := rest } } request
      generalize dispatch _ request = s' at acts drains
      cases acts with
      | ignored _ => exact draining deadline drains
      | acknowledged _ _ _ => cases drains
    | ended _ _ _ _ _ => exact leave_cancelled s s.alarms s.closeCode e.now
    | reaped _ _ _ _ _ _ => exact draining deadline drains
    | wrote _ _ => cases drains
    | @answered _ _ _ _ _ start _ _ => cases start <;> cases drains
    | drained _ _ => cases drains
    | aborted _ _ => cases drains
  | closed steps =>
    cases steps <;> exact draining deadline drains
  | told => rfl
  | called _ => rfl
  | _ => exact draining deadline drains

/-- In any run, an event loop waits for the runners to stop only in a session that is told to
end. -/
theorem Run.draining {past : List Occasion} (begins : Begins s₀) (run : Run s₀ e₀ past s e) :
    ∀ deadline, s.loop = .draining deadline → s.cancelled = true := by
  -- A session begins with no loop that drains.
  refine run.keeps (P := fun s _ => ∀ deadline, s.loop = .draining deadline →
    s.cancelled = true)
    (fun deadline drains => ?_) fun moved held => (move_moves moved).draining held
  cases begins <;> cases drains

/-- What becomes of the runners in every move of a run. -/
theorem Run.accounts {past : List Occasion} {m : Move} (begins : Begins s₀)
    (run : Run s₀ e₀ past s e) (moved : s.move e m = some (s', e')) : Accounts s e m s' e' :=
  (move_moves moved).accounts (run.sound begins).numbered (run.draining begins)

/-- No runner is ever taken out of a session. -/
theorem Moves.runners_length {m : Move} (numbered : s.Numbered) (moved : s.Moves e m s' e') :
    s.runners.length ≤ s'.runners.length := by
  cases moved with
  | looped steps =>
    cases steps.oversees with
    | kept same _ =>
      -- As many runners do the same as before.
      have lengths := congrArg List.length same
      simp only [List.length_map] at lengths
      exact Nat.le_of_eq lengths.symm
    | started _ _ runners _ => simp [runners]
    | aborted runners _ =>
      rw [runners]
      exact abortRunners_keeps (P := fun t _ => s.runners.length ≤ t.runners.length) numbered
        (Nat.le_refl _) fun {t e r} _ held => by simpa [abortRunner] using held
  | ran _ _ => simp
  | closed steps => cases steps <;> exact Nat.le_refl _
  | _ => exact Nat.le_refl _

/-- A runner keeps its place. -/
theorem Accounts.later {m : Move} {id : Nat} {r : Runner} (accounts : Accounts s e m s' e')
    (grows : s.runners.length ≤ s'.runners.length) (found : s.runners[id]? = some r) :
    ∃ r', s'.runners[id]? = some r' ∧ Fate s e m s' e' id r r' := by
  obtain ⟨inside, -⟩ := List.getElem?_eq_some_iff.mp found
  have there := List.getElem?_eq_getElem (Nat.lt_of_lt_of_le inside grows)
  refine ⟨_, there, ?_⟩
  -- Whoever stands in its place is not new.
  rcases accounts id _ there with ⟨missing, -⟩ | ⟨q, before, fate⟩
  · rw [found] at missing
    cases missing
  · rw [found] at before
    cases before
    exact fate

/-- A place of a runner that is free after a move was free before it. -/
theorem Moves.missing {m : Move} {id : Nat} (numbered : s.Numbered) (moved : s.Moves e m s' e')
    (missing : s'.runners[id]? = none) : s.runners[id]? = none := by
  -- Runners are never taken away.
  have grows := moved.runners_length numbered
  have outside := List.getElem?_eq_none_iff.mp missing
  exact List.getElem?_eq_none (by omega)

/-- A runner that is still to be started takes no step. -/
theorem ne_task_of_missing {m : Move} {id : Nat} (moved : s.move e m = some (s', e'))
    (missing : s.runners[id]? = none) : m ≠ .task (.runner id) := by
  rintro rfl
  simp [move, step, missing] at moved

end Session

end WatchRelay
