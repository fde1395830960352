import WatchRelay.Proofs.Session.Closing

/-! How a session comes to lose its write half: a write fails, or the session is told to end. -/

namespace WatchRelay

/-- A write that goes on leaves the write half where it is. -/
theorem Outlet.writable_of_on {o o' : Outlet} {now : Nat} {w : Writer} {frame : OutFrame}
    {stage stage' : WriteStage} (moved : o.stepWrite now w frame stage = some (o', .on stage')) :
    o'.writable = o.writable := by
  cases stepWrite_writes moved <;> rfl

/-- A write that succeeds leaves the write half where it is. -/
theorem Outlet.writable_of_done {o o' : Outlet} {now : Nat} {w : Writer} {frame : OutFrame}
    {stage : WriteStage} {f : Option SessionFailure}
    (moved : o.stepWrite now w frame stage = some (o', .done true f)) :
    o'.writable = o.writable := by
  -- Of the ends of a write, only the one behind the flush is a success.
  cases stepWrite_writes moved
  rfl

/-- A step of a runner leaves the write half where it is, or its write fails. -/
theorem Runner.Steps.writable {r r' : Runner} {o o' : Outlet} {e e' : Surroundings}
    {credentials : Credentials} {stopped : Bool} {f : Option SessionFailure}
    (moved : r.Steps o e credentials stopped (r', o', e', f)) :
    o'.writable = o.writable ∨ ∃ m stage g, r.errand? = some (.write (.message m) stage) ∧
      o.stepWrite e.now (.runner r.id) (.message m) stage = some (o', .done false g) := by
  generalize whole : (r', o', e', f) = change at moved
  cases moved with
  | toldFirst _ _ => cases whole; exact .inl rfl
  | opened _ _ => exact .inl (congrArg _ (openWatch_rests whole.symm).1)
  | told _ _ => cases whole; exact .inl rfl
  | consumed _ _ consumes =>
    -- Reading an event only makes the runner get in line.
    subst whole
    unfold consume at consumes
    split at consumes
    · split at consumes <;> cases consumes <;> exact .inl rfl
    all_goals cases consumes
    all_goals exact .inl rfl
  | wrote _ writes => cases whole; exact .inl (Outlet.writable_of_on writes)
  | forwarded _ writes => cases whole; exact .inl (Outlet.writable_of_done writes)
  | @failed w m stage _ _ forwards writes =>
    cases whole
    exact .inr ⟨m, stage, _, by simp [errand?, forwards], writes⟩

namespace Session

variable {s s' s₀ : Session} {e e' e₀ : Surroundings} {past : List Occasion}

/-- Whether a move ends a write that has failed. -/
def Occasion.failsWrite (o : Occasion) : Bool :=
  match o.move with
  | .task task =>
    match task.writer?.map fun w => (w, o.session.errand w) with
    | some (w, some (.write frame stage)) =>
      match o.session.outlet.stepWrite o.env.now w frame stage with
      | some (_, .done ok _) => !ok
      | _ => false
    | _ => false
  | _ => false

theorem failsWrite_of {task : Task} {w : Writer} {frame : OutFrame} {stage : WriteStage}
    {o' : Outlet} {f : Option SessionFailure} (writer : task.writer? = some w)
    (own : s.errand w = some (.write frame stage))
    (fails : s.outlet.stepWrite e.now w frame stage = some (o', .done false f)) :
    Occasion.failsWrite ⟨s, e, .task task⟩ = true := by
  simp [Occasion.failsWrite, writer, own, fails]

/-- A step of the event loop leaves the write half where it is, or its write fails. -/
theorem LoopSteps.writable (numbered : s.Numbered) (moved : s.LoopSteps e s' e') :
    s'.outlet.writable = s.outlet.writable ∨
      Occasion.failsWrite ⟨s, e, .task .eventLoop⟩ = true := by
  cases moved with
  | told _ _ => exact .inl (congrArg _ (leave_work s s.alarms .away e.now).outlet)
  | failed _ _ _ => exact .inl (congrArg _ (leave_work s _ _ e.now).outlet)
  | @dispatched request rest _ _ _ _ =>
    have acts :=
      dispatch_dispatches { s with receiver := { s.receiver with queue := rest } } request
    generalize dispatch _ request = s' at acts
    cases acts with
    | ignored _ => exact .inl rfl
    | @acknowledged t _ _ released _ =>
      have same : t.outlet = s.outlet := (work_of_released released).outlet
      have there : t.outlet.writable = s.outlet.writable := by rw [same]
      exact .inl there
  | ended _ _ _ _ _ => exact .inl (congrArg _ (leave_work s s.alarms s.closeCode e.now).outlet)
  | reaped _ _ _ _ _ _ => exact .inl rfl
  | wrote _ writes => exact .inl (Outlet.writable_of_on writes)
  | @answered m stage o' ok f start answers writes =>
    -- How the write ends decides.
    cases ok with
    | true =>
      have same := Outlet.writable_of_done writes
      cases start <;> exact .inl same
    | false => exact .inr (failsWrite_of rfl (errand_acknowledging answers) writes)
  | drained _ _ => exact .inl rfl
  | aborted _ _ => exact .inl (abortRunners_outlet Outlet.writable (fun _ _ => rfl) numbered e)

/-- A step of a call that tears the session down takes the write half only in closing. -/
theorem TeardownSteps.writable {call : Nat} (moved : s.TeardownSteps e call s' e') :
    s'.outlet.writable = s.outlet.writable ∨ s.teardowns ≠ [] := by
  have called {phase : TeardownPhase} (there : s.teardown? call = some phase) :
      s.teardowns ≠ [] := fun none => by simp [teardown?, none] at there
  -- Whoever takes such a step has called before.
  cases moved with
  | begun waits _ => exact .inr (called waits)
  | aborted waits _ => exact .inr (called waits)
  | wrote closing _ => exact .inr (called closing)
  | closed closing _ => exact .inr (called closing)
  | watched watches _ => exact .inl rfl

/-- A move leaves the write half where it is, or a write fails, or the session is being torn
down. -/
theorem Moves.writable {m : Move} (numbered : s.Numbered) (moved : s.Moves e m s' e') :
    s'.outlet.writable = s.outlet.writable ∨ Occasion.failsWrite ⟨s, e, m⟩ = true ∨
      s.teardowns ≠ [] := by
  cases moved with
  | looped steps =>
    rcases steps.writable numbered with same | fails
    · exact .inl same
    · exact .inr (.inl fails)
  | keptAlive steps =>
    cases steps with
    | told _ _ => exact .inl rfl
    | ticked _ _ _ => exact .inl rfl
    | wrote _ writes => exact .inl (Outlet.writable_of_on writes)
    | pinged _ writes => exact .inl (Outlet.writable_of_done writes)
    | @failed next stage _ _ pings writes =>
      -- A ping that fails is a write that fails.
      have own : s.errand .keepAlive = some (.write .ping stage) := by
        simp [errand, KeepAlive.errand?, pings]
      exact .inr (.inl (failsWrite_of rfl own writes))
  | @ran id r r' o _ f found steps =>
    rcases steps.writable with same | ⟨m, stage, g, own, writes⟩
    · exact .inl same
    · -- The write that fails is the runner's, under its number.
      rw [numbered id r found] at writes
      have own : s.errand (.runner id) = some (.write (.message m) stage) := by
        simp [errand, found, own]
      exact .inr (.inl (failsWrite_of rfl own writes))
  | closed steps =>
    rcases steps.writable with same | called
    · exact .inl same
    · exact .inr (.inr called)
  | _ => exact .inl rfl

/-- A session told to end is never told otherwise. -/
theorem Moves.cancelled {m : Move} (numbered : s.Numbered) (moved : s.Moves e m s' e')
    (told : s.cancelled = true) : s'.cancelled = true := by
  -- Being told is never taken back.
  rcases moved.ongoing numbered with on | ⟨call, stepped⟩ | ⟨call, -, rfl⟩
  · exact on.told told
  · cases stepped <;> exact told
  · rfl

/-- A session without a write half is told to end, or a write has failed. -/
theorem Run.writable (begins : Begins s₀) (run : Run s₀ e₀ past s e)
    (gone : s.outlet.writable = false) :
    s.cancelled = true ∨ ∃ o ∈ past, o.failsWrite = true := by
  have held := run.traces
    (P := fun past s _ => (s.Sound ∧ s.Settled) ∧
      (s.outlet.writable = false → s.cancelled = true ∨ ∃ o ∈ past, o.failsWrite = true))
    ⟨⟨begins.sound, begins.settled⟩, ?_⟩ ?_
  · exact held.2 gone
  · -- The write half is there at the start.
    intro gone
    cases begins <;> cases gone
  · rintro past s s' e e' m moved ⟨⟨sound, settled⟩, lost⟩
    have moved := move_moves moved
    refine ⟨⟨moved.sound sound, moved.settled settled sound⟩, fun gone => ?_⟩
    -- It was lost before this move, or by a write that fails in it, or by a call that closes.
    rcases moved.writable sound.numbered with same | fails | called
    · rcases lost (same.symm.trans gone) with told | ⟨o, member, fails⟩
      · exact .inl (moved.cancelled sound.numbered told)
      · exact .inr ⟨o, List.mem_append_left _ member, fails⟩
    · exact .inr ⟨_, List.mem_append_right _ (List.mem_singleton.mpr rfl), fails⟩
    · exact .inl (moved.cancelled sound.numbered (settled.called called))

end Session

end WatchRelay
