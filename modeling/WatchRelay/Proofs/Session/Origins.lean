import WatchRelay.Proofs.Session.Records

/-! Where runners come from: each is started behind the acknowledgment of a subscription of its
own. -/

namespace WatchRelay

namespace Session

variable {s s' s₀ : Session} {e e' e₀ : Surroundings} {past : List Occasion}

/-- Whether the event loop takes a subscription for which a runner is due: none that is on record
for the kind runs. -/
structure Occasion.Asks (o : Occasion) (kind : ResourceKind) (project : String) : Prop where
  taken : o.taken? = some (.subscribe (.known kind) project)
  free : (o.session.active.get kind).any o.session.runs = false

/-- Whether a move starts the runner with a number. -/
structure Occasion.Starts (o : Occasion) (id : Nat) (kind : ResourceKind) (project : String) :
    Prop where
  number : o.session.runners.length = id
  added : ∃ s' e', o.session.move o.env o.move = some (s', e') ∧
    s'.runners = o.session.runners ++ [.new id kind project]

/-- Whether the acknowledgment of a subscription is among some frames, behind those that were there
when the subscription was taken. -/
def Occasion.IsAnswered (asked : Occasion) (kind : ResourceKind)
    (sent : List (OutFrame × Writer)) : Prop :=
  ∃ earlier later, asked.session.outlet.sent <+: earlier ∧
    sent = earlier ++ (.message (.subscribed (.known kind)), .eventLoop) :: later

/-- What is acknowledged stays so. -/
theorem Occasion.IsAnswered.grows {asked : Occasion} {kind : ResourceKind}
    {sent sent' : List (OutFrame × Writer)} (answered : asked.IsAnswered kind sent)
    (grows : sent <+: sent') : asked.IsAnswered kind sent' := by
  -- More of the log behind the acknowledgment leaves the order as it is.
  obtain ⟨earlier, later, behind, rfl⟩ := answered
  obtain ⟨rest, rfl⟩ := grows
  exact ⟨earlier, later ++ rest, behind, by simp⟩

/-- How a runner came to be: its subscription was taken, the event loop took nothing else until it
started the runner, and unless the write failed the acknowledgment was on the connection by then. -/
structure Origin (past : List Occasion) (id : Nat) (kind : ResourceKind) (project : String)
    (asked started : Occasion) : Prop where
  order : ∃ before between after, past = before ++ asked :: (between ++ started :: after) ∧
    ∀ o ∈ between, o.taken? = none
  asks : asked.Asks kind project
  starts : started.Starts id kind project
  answered : started.failsWrite = false → asked.IsAnswered kind started.session.outlet.sent

/-- What happens later is nothing to how a runner came to be. -/
theorem Origin.later {id : Nat} {kind : ResourceKind} {project : String} {asked started : Occasion}
    (origin : Origin past id kind project asked started) (more : List Occasion) :
    Origin (past ++ more) id kind project asked started := by
  -- What comes later stands behind all that the origin tells.
  obtain ⟨before, between, after, rfl, idle⟩ := origin.order
  exact ⟨⟨before, between, after ++ more, by simp, idle⟩, origin.asks, origin.starts,
    origin.answered⟩

/-- How far the subscription has come for which a runner is due: its acknowledgment is about to be
written, and the event loop has taken nothing since. -/
structure Awaits (past : List Occasion) (s : Session) (asked : Occasion) (m : Message)
    (stage : WriteStage) (kind : ResourceKind) (project : String) : Prop where
  order : ∃ before between, past = before ++ asked :: between ∧
    ∀ o ∈ between, o.taken? = none
  asks : asked.Asks kind project
  message : m = .subscribed (.known kind)
  behind : asked.session.outlet.sent <+: s.outlet.sent
  written : ∀ deadline, stage = .flushing deadline → asked.IsAnswered kind s.outlet.sent

/-- What is known of the runners of a session and of the one that is due. -/
structure Begun (past : List Occasion) (s : Session) : Prop where
  awaits : ∀ m stage kind project, s.loop = .acknowledging m stage (some (kind, project)) →
    ∃ asked, Awaits past s asked m stage kind project
  origin : ∀ (id : Nat) (r : Runner), s.runners[id]? = some r →
    ∃ asked started, Origin past id r.kind r.project asked started

/-- While nothing is taken, a subscription stays where it is or its acknowledgment is written. -/
theorem Awaits.later {asked last : Occasion} {m : Message} {stage stage' : WriteStage}
    {kind : ResourceKind} {project : String} (awaits : Awaits past s asked m stage kind project)
    (idle : last.taken? = none) (grows : s.outlet.sent <+: s'.outlet.sent)
    (written : ∀ deadline, stage' = .flushing deadline →
      stage = .flushing deadline ∨ s'.outlet.sent = s.outlet.sent ++ [(.message m, .eventLoop)]) :
    Awaits (past ++ [last]) s' asked m stage' kind project := by
  obtain ⟨⟨before, between, rfl, none⟩, asks, message, behind, answered⟩ := awaits
  refine ⟨⟨before, between ++ [last], by simp, Run.forall_concat none idle⟩, asks, message,
    behind.trans grows, fun deadline flushes => ?_⟩
  rcases written deadline flushes with before | now
  · exact (answered deadline before).grows grows
  · -- The acknowledgment is the last frame on the connection.
    exact ⟨s.outlet.sent, [], behind, by rw [now, message]⟩

/-- The request behind whose acknowledgment a runner is due. -/
theorem dispatch_due {request : Request} {m : Message} {stage : WriteStage} {kind : ResourceKind}
    {project : String} (selects : s.loop = .selecting)
    (due : (s.dispatch request).loop = .acknowledging m stage (some (kind, project))) :
    request = .subscribe (.known kind) project ∧ (s.active.get kind).any s.runs = false ∧
      m = .subscribed (.known kind) ∧ stage = .queued := by
  cases request with
  | subscribe asked scope =>
    obtain ⟨rfl, rfl, start⟩ : .subscribed asked = m ∧ .queued = stage ∧ _ :=
      LoopPhase.acknowledging.inj due
    -- Only for a kind of the catalog a runner is due.
    cases asked with
    | unknown _ => cases start
    | known own =>
      simp only [Kind.resource?] at start
      split at start
      · cases start
      · next free =>
        cases start
        exact ⟨rfl, by simpa using free, rfl, rfl⟩
  | unsubscribe asked => cases (LoopPhase.acknowledging.inj due).2.2
  | ignored _ =>
    rw [show (s.dispatch (.ignored _)).loop = s.loop from rfl, selects] at due; cases due

/-- A runner that is new after a move is the one that was due. -/
theorem Moves.started {m : Move} {id : Nat} {r : Runner} (numbered : s.Numbered)
    (moved : s.Moves e m s' e') (missing : s.runners[id]? = none)
    (found : s'.runners[id]? = some r) :
    ∃ message stage o' ok f kind project,
      m = .task .eventLoop ∧ s.loop = .acknowledging message stage (some (kind, project)) ∧
        s.outlet.stepWrite e.now .eventLoop (.message message) stage = some (o', .done ok f) ∧
        s' = s.acknowledged o' f (some (kind, project)) ∧ s.runners.length = id ∧
        r = .new id kind project := by
  -- Elsewhere there are as many runners as before.
  have none {α : Type} {f : Runner → α} {P : Prop} (same : s'.runners.map f = s.runners.map f) :
      P := by
    obtain ⟨q, there, -⟩ := found_of_map same found
    rw [missing] at there
    cases there
  cases moved with
  | looped steps =>
    cases steps with
    | told _ _ => exact none (leave_work s s.alarms .away e.now).runners
    | failed _ _ _ => exact none (leave_work s _ _ e.now).runners
    | dispatched _ _ _ _ => exact none (dispatch_dispatches _ _).runners
    | ended _ _ _ _ _ => exact none (leave_work s s.alarms s.closeCode e.now).runners
    | reaped _ _ _ _ _ _ => exact none (reap_work s _).runners
    | wrote _ _ => exact none (f := fun r => r) rfl
    | @answered message stage o' ok f start answers writes =>
      cases start with
      | none => exact none (f := fun r => r) rfl
      | some due =>
        rcases found_of_concat found with there | ⟨-, rfl, rfl⟩
        · rw [missing] at there
          cases there
        · exact ⟨message, stage, o', ok, f, due.1, due.2, rfl, answers, writes, rfl, rfl, rfl⟩
    | drained _ _ => exact none (f := fun r => r) rfl
    | aborted _ _ => exact none (abortRunners_abides numbered e).notes
  | @ran own q q' o _ f there steps =>
    have kept : Abides s { s with
        outlet := o, runners := s.runners.set own q', alarms := s.alarms.reportAny f } :=
      .of_set there rfl rfl steps.phase (fun _ => steps.running) rfl rfl
    exact none kept.notes
  | closed steps => cases steps <;> exact none (f := fun r => r) rfl
  | _ => exact none (f := fun r => r) rfl

/-- A step of the event loop takes a subscription on, or its acknowledgment. -/
theorem LoopSteps.awaits {m : Message} {stage : WriteStage} {kind : ResourceKind} {project : String}
    (begun : Begun past s) (moved : s.LoopSteps e s' e')
    (due : s'.loop = .acknowledging m stage (some (kind, project))) :
    ∃ asked, Awaits (past ++ [⟨s, e, .task .eventLoop⟩]) s' asked m stage kind project := by
  cases moved with
  | @dispatched request rest selects untold calm waiting =>
    -- The subscription is taken in this move, and nothing has come on the connection since.
    have takes : s.takes? = some request := by simp [takes?, selects, untold, calm, waiting]
    let taken := { s with receiver := { s.receiver with queue := rest } }
    obtain ⟨rfl, free, rfl, rfl⟩ := dispatch_due (s := taken) selects due
    refine ⟨⟨s, e, .task .eventLoop⟩, ⟨past, [], rfl, fun o member => by cases member⟩,
      ⟨takes, free⟩, rfl, List.prefix_refl _, fun deadline flushes => by cases flushes⟩
  | @wrote m' stage' stage'' o' start answers writes =>
    obtain ⟨rfl, rfl, rfl⟩ := LoopPhase.acknowledging.inj due
    obtain ⟨asked, awaits⟩ := begun.awaits _ _ _ _ answers
    have idle : Occasion.taken? ⟨s, e, .task .eventLoop⟩ = none := by
      simp [Occasion.taken?, takes?, answers]
    refine ⟨asked, awaits.later idle ?_ fun deadline flushes => .inr ?_⟩
    · cases Outlet.stepWrite_writes writes with
      | turn _ _ => exact List.prefix_refl _
      | accepted _ =>
        rw [Outlet.sent_note_frame]
        exact List.prefix_append _ _
    · -- What is flushed has just been accepted.
      subst flushes
      cases Outlet.stepWrite_writes writes with
      | accepted _ => exact Outlet.sent_note_frame ..
  | reaped selects _ _ _ _ _ =>
    rw [show (s.reap _).loop = s.loop from rfl, selects] at due
    cases due
  | @answered _ _ _ _ _ start _ _ => cases start <;> cases due
  | _ => cases due

/-- Every move keeps what is known of where the runners come from. -/
theorem Begun.step {m : Move} (begun : Begun past s) (sound : s.Sound)
    (moved : s.move e m = some (s', e')) (accounts : Accounts s e m s' e') :
    Begun (past ++ [⟨s, e, m⟩]) s' := by
  have moves := move_moves moved
  refine ⟨fun message stage kind project due => ?_, fun id r' found' => ?_⟩
  · by_cases own : m = .task .eventLoop
    · subst own
      cases moves with
      | looped steps => exact steps.awaits begun due
    · -- What others do leaves the event loop where it is.
      have same : s'.loop = s.loop := by
        cases moves with
        | looped _ => exact absurd rfl own
        | closed steps => cases steps <;> rfl
        | _ => rfl
      obtain ⟨asked, awaits⟩ := begun.awaits message stage kind project (same.symm.trans due)
      exact ⟨asked, awaits.later (taken?_other own) (moves.sent_grows sound.numbered)
        fun _ flushes => .inl flushes⟩
  · rcases accounts id r' found' with ⟨missing, -⟩ | ⟨r, found, fate⟩
    · -- The new runner is the one that was due, and its acknowledgment is written or has failed.
      obtain ⟨message, stage, o', ok, f, kind, project, rfl, answers, writes, rfl,
          number, rfl⟩ :=
        moves.started sound.numbered missing found'
      obtain ⟨asked, ⟨before, between, rfl, idle⟩, asks, rfl, behind, answered⟩ :=
        begun.awaits _ _ _ _ answers
      refine ⟨asked, ⟨s, e, .task .eventLoop⟩, ⟨before, between, [], by simp, idle⟩, asks,
        ⟨number, _, _, moved, by rw [← number]; rfl⟩, fun unfailed => ?_⟩
      have fails (gone : ok = false) : Occasion.failsWrite ⟨s, e, .task .eventLoop⟩ = true :=
        failsWrite_of rfl (errand_acknowledging answers) (gone ▸ writes)
      cases Outlet.stepWrite_writes writes with
      | flushed deadline => exact answered deadline rfl
      | refused _ _ => exact absurd (fails rfl) (by simp [unfailed])
      | failed _ _ => exact absurd (fails rfl) (by simp [unfailed])
    · obtain ⟨asked, started, origin⟩ := begun.origin id r found
      rw [fate.scope.1, fate.scope.2]
      exact ⟨asked, started, origin.later _⟩

/-- In any run, each runner was started behind the acknowledgment of a subscription of its own. -/
theorem Run.begun (begins : Begins s₀) (run : Run s₀ e₀ past s e) : Begun past s := by
  -- Nothing is due and no runner is there before the first move.
  refine run.keeps_along (P := fun past s _ => Begun past s)
    ⟨fun m stage kind project due => ?_, fun id r found => ?_⟩ fun run moved held =>
      held.step (run.sound begins) moved (run.accounts begins moved)
  · cases begins <;> cases due
  · simp [begins.runners] at found

end Session

end WatchRelay
