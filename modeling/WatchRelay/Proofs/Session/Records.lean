import WatchRelay.Proofs.Session.Intake
import WatchRelay.Proofs.Session.Runners

/-! The records of a session: for each kind, the runner that stands for it. -/

namespace WatchRelay

/-- The runner that the event loop starts behind what it writes, if one is due. -/
def LoopPhase.start? : LoopPhase → Option (ResourceKind × String)
  | .acknowledging _ _ start => start
  | .idle | .selecting | .draining _ | .finished _ | .discarded => none

/-- What is noted about a runner, without what it is doing. -/
def Runner.note (r : Runner) : Runner := { r with phase := .spawned }

/-- What is noted about a runner: its kind, whether it was told to stop, and whether its end was
taken note of. -/
theorem Runner.alike {r r' : Runner} (same : r'.note = r.note) :
    r'.kind = r.kind ∧ r'.cancelled = r.cancelled ∧ r'.joined = r.joined := by
  obtain ⟨-, kind, -, cancelled, -, joined⟩ := Runner.mk.inj same
  exact ⟨kind, cancelled, joined⟩

namespace Session

variable {s s' s₀ : Session} {e e' e₀ : Surroundings} {past : List Occasion}

theorem runs_eq {id : Nat} {r : Runner} (found : s.runners[id]? = some r) :
    s.runs id = r.isRunning := by
  simp [runs, found]

/-- What is known of the records of a session. -/
structure Recorded (s : Session) : Prop where
  /-- On record are runners of the kind that were not told to stop, and whose end nobody has taken
  note of. -/
  entry : ∀ kind id, s.active.get kind = some id →
    ∃ r, s.runners[id]? = some r ∧ r.kind = kind ∧ r.cancelled = false ∧ r.joined = false
  /-- A runner that runs and is not told to stop is on record. -/
  live : ∀ (id : Nat) (r : Runner), s.runners[id]? = some r → r.isRunning = true →
    s.isTold r = false → s.active.get r.kind = some id
  /-- Only an end that has come is taken note of. -/
  joined : ∀ (id : Nat) (r : Runner), s.runners[id]? = some r → r.joined = true →
    r.isRunning = false
  /-- Where a runner is due, those of its kind that still run are told to stop. -/
  pending : ∀ kind project, s.loop.start? = some (kind, project) →
    ∀ (id : Nat) (r : Runner), s.runners[id]? = some r → r.kind = kind →
      r.isRunning = true →
      s.isTold r = true

/-- How the runners of a session go on where none is started: each may stop, be told to stop, or
have its end taken note of once it has come. -/
structure GoesOn (s s' : Session) : Prop where
  runner : ∀ (id : Nat) (r' : Runner), s'.runners[id]? = some r' →
    ∃ r, s.runners[id]? = some r ∧ r'.kind = r.kind ∧
      (r'.isRunning = true → r.isRunning = true) ∧
      (s.isTold r = true → s'.isTold r' = true) ∧
      (r'.joined = true → r.joined = true ∨ r'.isRunning = false)
  start : s'.loop.start? = none ∨ s'.loop.start? = s.loop.start?

/-- Where no record is made, and only of runners that stop or are told to stop one is lost, what is
known of the records is kept. -/
theorem Recorded.goesOn (held : Recorded s) (on : GoesOn s s')
    (entry : ∀ kind id, s'.active.get kind = some id → s.active.get kind = some id ∧
      ∀ r, s.runners[id]? = some r → r.kind = kind →
        ∃ r', s'.runners[id]? = some r' ∧ r'.note = r.note)
    (live : ∀ (id : Nat) (r' : Runner), s'.runners[id]? = some r' → r'.isRunning = true →
      s'.isTold r' = false → s.active.get r'.kind = some id → s'.active.get r'.kind = some id) :
    Recorded s' := by
  refine ⟨fun kind id recorded => ?_, fun id r' found runs untold => ?_,
    fun id r' found ended => ?_, fun kind project due id r' found same runs => ?_⟩
  · obtain ⟨before, stays⟩ := entry kind id recorded
    -- An entry keeps its runner, with all that the record asks of it.
    obtain ⟨r, there, same, untold, unjoined⟩ := held.entry kind id before
    obtain ⟨r', found, noted⟩ := stays r there same
    obtain ⟨kinds, cancelled, joined⟩ := Runner.alike noted
    exact ⟨r', found, kinds.trans same, cancelled.trans untold, joined.trans unjoined⟩
  · obtain ⟨r, there, kind, ran, told, -⟩ := on.runner id r' found
    refine live id r' found runs untold ?_
    rw [kind]
    -- Who is not told to stop now was not told before.
    refine held.live id r there (ran runs) (Bool.eq_false_iff.mpr fun before => ?_)
    rw [told before] at untold
    cases untold
  · obtain ⟨r, there, -, ran, -, joined⟩ := on.runner id r' found
    -- Whose end was noted had stopped, and nobody starts again.
    rcases joined ended with before | stopped
    · refine Bool.eq_false_iff.mpr fun runs => ?_
      have still := held.joined id r there before
      rw [ran runs] at still
      cases still
    · exact stopped
  · obtain ⟨r, there, kinds, ran, told, -⟩ := on.runner id r' found
    rcases on.start with none | before
    · rw [none] at due
      -- A subscription that is due was due before, when its kind was free already.
      cases due
    · exact told (held.pending kind project (before.symm.trans due) id r there
        (kinds.symm.trans same) (ran runs))

/-- What leaves the records alone: runners may stop, and none is started or told anything of its
own. -/
structure Abides (s s' : Session) : Prop where
  active : s'.active = s.active
  notes : s'.runners.map Runner.note = s.runners.map Runner.note
  runs : ∀ (id : Nat) (r : Runner), s'.runners[id]? = some r → r.isRunning = true →
    s.runs id = true
  told : s.cancelled = true → s'.cancelled = true
  start : s'.loop.start? = none ∨ s'.loop.start? = s.loop.start?

namespace Abides

/-- What leaves the runners as they are leaves the records alone. -/
theorem of_same (active : s'.active = s.active) (runners : s'.runners = s.runners)
    (told : s.cancelled = true → s'.cancelled = true)
    (start : s'.loop.start? = none ∨ s'.loop.start? = s.loop.start?) : Abides s s' := by
  -- All that the records speak of is as it was.
  refine ⟨active, by rw [runners], fun id r found runs => ?_, told, start⟩
  rw [runners] at found
  exact (runs_eq found).trans runs

/-- A runner that is replaced by itself in another phase is noted as before. -/
theorem of_set {id : Nat} {r r' : Runner} (found : s.runners[id]? = some r)
    (active : s'.active = s.active) (runners : s'.runners = s.runners.set id r')
    (phase : ∃ phase, r' = { r with phase }) (runs : r'.isRunning = true → r.isRunning = true)
    (cancelled : s'.cancelled = s.cancelled) (loop : s'.loop = s.loop) : Abides s s' := by
  obtain ⟨inside, place⟩ := List.getElem?_eq_some_iff.mp found
  refine ⟨active, ?_, fun other q there still => ?_, fun told => cancelled.trans told,
    .inr (by rw [loop])⟩
  · -- Only the runner in that place is another one, and what is noted about it is the same.
    have within : id < (s.runners.map Runner.note).length := by simpa using inside
    have note : r'.note = (s.runners.map Runner.note)[id] := by
      obtain ⟨phase, rfl⟩ := phase
      rw [List.getElem_map, place]
      rfl
    rw [runners, List.map_set, note, List.set_getElem_self]
  · rw [runners] at there
    by_cases own : other = id
    · subst own
      obtain rfl : r' = q := by simpa [inside] using there
      exact (runs_eq found).trans (runs still)
    · rw [List.getElem?_set_ne (Ne.symm own)] at there
      exact (runs_eq there).trans still

theorem trans {t : Session} (first : Abides s t) (second : Abides t s') : Abides s s' := by
  refine ⟨second.active.trans first.active, second.notes.trans first.notes,
    fun id r found runs => ?_, second.told ∘ first.told, ?_⟩
  · -- Who runs at the end ran in between, and so at the start.
    obtain ⟨q, there, -⟩ := found_of_map second.notes found
    have between := second.runs id r found runs
    exact first.runs id q there ((runs_eq there).symm.trans between)
  · rcases second.start with none | same
    · exact .inl none
    · rw [same]
      exact first.start

/-- Where the records are left alone, the runners go on. -/
theorem goesOn (abides : Abides s s') : GoesOn s s' := by
  refine ⟨fun id r' found => ?_, abides.start⟩
  obtain ⟨r, there, same⟩ := found_of_map abides.notes found
  -- A runner keeps all that is noted about it, and does not run again once it has ended.
  obtain ⟨kind, cancelled, joined⟩ := Runner.alike same
  refine ⟨r, there, kind, fun runs => ?_, fun told => ?_, fun ended =>
    .inl (joined.symm.trans ended)⟩
  · exact (runs_eq there).symm.trans (abides.runs id r' found runs)
  · simp only [isTold, Bool.or_eq_true, cancelled] at told ⊢
    exact told.imp_right abides.told

end Abides

/-- What leaves the records alone keeps what is known of them. -/
theorem Recorded.abides (held : Recorded s) (abides : Abides s s') : Recorded s' := by
  -- The entries are the same, and each of them finds its runner under the same number.
  refine held.goesOn abides.goesOn (fun kind id recorded => ⟨?_, fun r there _ => ?_⟩)
    fun id r' found _ _ recorded => ?_
  · rw [← abides.active]
    exact recorded
  · obtain ⟨r', found, same⟩ := found_of_map abides.notes.symm there
    exact ⟨r', found, same.symm⟩
  · rw [abides.active]
    exact recorded

/-- Stopping the runners from outside leaves the records alone. -/
theorem abortRunners_abides (numbered : s.Numbered) (e : Surroundings) :
    Abides s (s.abortRunners e).1 := by
  refine abortRunners_keeps (P := fun t _ => Abides s t) numbered
    (.of_same rfl rfl id (.inr rfl)) fun {t e r} found held => held.trans ?_
  -- A runner that is stopped is in another phase, and does not run.
  have stops : (∃ phase, (r.abort t.outlet e).1 = { r with phase }) ∧
      ((r.abort t.outlet e).1.isRunning = true → r.isRunning = true) := by
    unfold Runner.abort
    split
    · next runs => exact ⟨⟨_, rfl⟩, fun _ => runs⟩
    · exact ⟨⟨r.phase, rfl⟩, id⟩
  exact .of_set found rfl rfl stops.1 stops.2 rfl rfl

namespace Recorded

/-- Where nothing on record for a kind runs, all its runners that run are told to stop. -/
theorem told_of_idle (held : Recorded s) {kind : ResourceKind}
    (free : (s.active.get kind).any s.runs = false) {id : Nat} {r : Runner}
    (found : s.runners[id]? = some r) (same : r.kind = kind) (runs : r.isRunning = true) :
    s.isTold r = true := by
  -- A runner of the kind that is not told to stop is on record, where none that runs was found.
  cases untold : s.isTold r with
  | true => rfl
  | false =>
    have recorded := held.live id r found runs untold
    rw [same] at recorded
    simp [recorded, runs_eq found, runs] at free

/-- A kind that is released is not on record any more, and its runner is told to stop. -/
theorem release (held : Recorded s) (kind : ResourceKind) : Recorded (s.release kind) := by
  obtain ⟨loop, cancelled, -⟩ := s.release_loop kind
  -- Only the runner on record is touched, and it leaves the record as it is told.
  cases recorded : s.active.get kind with
  | none =>
    have same : s.release kind = s := by simp [Session.release, recorded]
    rw [same]
    exact held
  | some own =>
    have runners : (s.release kind).runners =
        s.runners.modify own fun r => { r with cancelled := true } := by
      simp [Session.release, recorded, cancelRunner, modifyRunner]
    have active : (s.release kind).active = s.active.set kind none := by
      simp [Session.release, recorded]
    refine held.goesOn ⟨fun place r' found => ?_, .inr (by rw [loop])⟩
      (fun other place there => ?_) fun place r' found _ untold there => ?_
    · rw [runners] at found
      obtain ⟨r, there, which⟩ := found_of_modify found
      refine ⟨r, there, ?_⟩
      simp only [isTold, cancelled]
      rcases which with rfl | rfl
      · exact ⟨rfl, id, id, .inl⟩
      · exact ⟨rfl, id, fun _ => rfl, .inl⟩
    · -- What is still on record is of another kind, so it is another runner.
      rw [active] at there
      have differ : other ≠ kind := by
        rintro rfl
        simp at there
      rw [PerKind.get_set_of_ne _ differ] at there
      refine ⟨there, fun r found same => ⟨r, ?_, rfl⟩⟩
      -- Two kinds are never on record with one runner.
      have apart : own ≠ place := by
        rintro rfl
        obtain ⟨q, found', kinds, -⟩ := held.entry kind own recorded
        rw [found] at found'
        cases found'
        exact differ (same.symm.trans kinds)
      simp [runners, found, apart]
    · -- The runner that was on record for the kind is told to stop now.
      rw [active, PerKind.get_set_of_ne _ ?_, there]
      intro same
      rw [same, recorded] at there
      cases there
      rw [runners, List.getElem?_modify_eq] at found
      obtain ⟨r, -, rfl⟩ := Option.map_eq_some_iff.mp found
      cases untold

/-- A session whose event loop is left keeps nothing on record. -/
theorem leave (held : Recorded s) (alarms : Alarms) (code : CloseCode) (now : Nat) :
    Recorded ({ s with alarms, closeCode := code }.leave now) := by
  have releases (kinds : List ResourceKind) (t : Session) (start : Recorded t) :
      Recorded (kinds.foldl Session.release t) := by
    -- The kinds are released one after the other.
    induction kinds generalizing t with
    | nil => exact start
    | cons kind rest ih => exact ih _ (start.release kind)
  have closing : Abides s { s with alarms, closeCode := code }.beginClosing :=
    .of_same rfl rfl (fun _ => rfl) (.inr rfl)
  exact (releases ResourceKind.all _ (held.abides closing)).abides
    (.of_same rfl rfl id (.inl rfl))

/-- An acknowledgment is written, behind which a runner may be due whose kind has none that goes
on. -/
theorem acknowledge (held : Recorded s) (m : Message) {start : Option (ResourceKind × String)}
    (free : ∀ kind project, start = some (kind, project) →
      -- The acknowledgment waits for a kind that is free, so whoever runs for it is told already.
      (s.active.get kind).any s.runs = false) : Recorded (s.acknowledge m start) where
  entry := held.entry
  live := held.live
  joined := held.joined
  pending kind project due _ _ found same runs :=
    held.told_of_idle (free kind project due) found same runs

/-- A request is acted on. -/
theorem dispatch (held : Recorded s) (request : Request) : Recorded (s.dispatch request) := by
  cases request with
  | subscribe kind project =>
    refine held.acknowledge _ fun k _ due => ?_
    -- A runner is due only where none of the kind runs.
    cases known : kind.resource? with
    | none => simp [known] at due
    | some own =>
      simp only [known] at due
      split at due
      · cases due
      · next idle =>
        obtain ⟨rfl, -⟩ := by simpa using due
        simpa using idle
  | unsubscribe kind =>
    simp only [Session.dispatch]
    split
    · next own _ => exact (held.release own).acknowledge _ fun _ _ due => by cases due
    · exact held.acknowledge _ fun _ _ due => by cases due
  | ignored _ => exact held

/-- A runner that is started is on record, where those of its kind that still run are told to
stop. -/
theorem spawn (held : Recorded s) (kind : ResourceKind) (project : String)
    (settled : s.loop.start? = none)
    (told : ∀ (id : Nat) (r : Runner), s.runners[id]? = some r → r.kind = kind →
      r.isRunning = true → s.isTold r = true) : Recorded (s.spawn kind project) := by
  have active : (s.spawn kind project).active = s.active.set kind (some s.runners.length) := rfl
  have runners : (s.spawn kind project).runners =
      s.runners ++ [.new s.runners.length kind project] := rfl
  -- The new runner takes the place of its kind in the record, and the others keep theirs.
  refine ⟨fun other id recorded => ?_, fun id r found runs untold => ?_,
    fun id r found ended => ?_, fun other _ due => ?_⟩
  · rw [active] at recorded
    rw [runners]
    by_cases same : other = kind
    -- The new entry is the new runner.
    · subst same
      obtain rfl : s.runners.length = id := by simpa using recorded
      exact ⟨_, List.getElem?_concat_length, rfl, rfl, rfl⟩
    · rw [PerKind.get_set_of_ne _ same] at recorded
      obtain ⟨r, found, rest⟩ := held.entry other id recorded
      obtain ⟨inside, -⟩ := List.getElem?_eq_some_iff.mp found
      exact ⟨r, (List.getElem?_append_left inside).trans found, rest⟩
  · rw [active]
    rcases found_of_concat found with there | ⟨-, rfl, rfl⟩
    · -- A runner that was there and is not told to stop is of another kind.
      rw [PerKind.get_set_of_ne _ ?_]
      · exact held.live id r there runs untold
      · intro same
        have stops : s.isTold r = true := told id r there same runs
        rw [show s.isTold r = false from untold] at stops
        cases stops
    · exact PerKind.get_set_self ..
  · rcases found_of_concat found with there | ⟨-, -, rfl⟩
    -- The new runner has not ended.
    · exact held.joined id r there ended
    · cases ended
  · have none : (s.spawn kind project).loop.start? = none := settled
    rw [none] at due
    cases due

/-- The end of a runner is taken note of, and no runner that has stopped is on record any more. -/
theorem reap (held : Recorded s) (numbered : s.Numbered) {r : Runner}
    (stopped : s.stopped? = some r) : Recorded (s.reap r) := by
  have ended : r.isRunning = false := by
    have which := List.find?_some stopped
    simp only [Bool.and_eq_true, Bool.not_eq_true'] at which
    exact which.1
  have there : s.runners[r.id]? = some r := by
    obtain ⟨id, place⟩ := List.getElem?_of_mem (List.mem_of_find?_eq_some stopped)
    rw [numbered id r place]
    exact place
  have runners : (s.reap r).runners = s.runners.modify r.id fun r => { r with joined := true } :=
    rfl
  have active (kind : ResourceKind) : (s.reap r).active.get kind =
      (s.active.get kind).filter (s.modifyRunner r.id fun r => { r with joined := true }).runs := by
    cases kind <;> rfl
  -- A runner is changed only in that its end is taken note of.
  have which {id : Nat} {r' : Runner} (found : (s.reap r).runners[id]? = some r') :
      ∃ q, s.runners[id]? = some q ∧
        (id ≠ r.id ∧ r' = q ∨ q = r ∧ r' = { r with joined := true }) := by
    rw [runners, List.getElem?_modify] at found
    obtain ⟨q, before, same⟩ := Option.map_eq_some_iff.mp found
    refine ⟨q, before, ?_⟩
    split at same
    · next own =>
      rw [own, before] at there
      cases there
      exact .inr ⟨rfl, same.symm⟩
    · next apart => exact .inl ⟨Ne.symm apart, same.symm⟩
  refine held.goesOn ⟨fun id r' found => ?_, .inr rfl⟩ (fun kind id recorded => ?_)
    fun id r' found runs _ recorded => ?_
  · obtain ⟨q, before, ⟨-, rfl⟩ | ⟨rfl, rfl⟩⟩ := which found
    -- Another runner is as it was.
    · exact ⟨_, before, rfl, fun h => h, fun h => h, .inl⟩
    · exact ⟨_, before, rfl, fun h => h, fun h => h, fun _ => .inr ended⟩
  · rw [active] at recorded
    obtain ⟨recorded, runs⟩ := Option.filter_eq_some_iff.mp recorded
    refine ⟨recorded, fun q found _ => ⟨q, ?_, rfl⟩⟩
    -- The runner that has stopped is not on record.
    have apart : r.id ≠ id := by
      rintro rfl
      rw [found] at there
      cases there
      have still : r.isRunning = true := by
        simpa [Session.runs, modifyRunner, found, Runner.isRunning] using runs
      rw [ended] at still
      cases still
    simp [runners, found, apart]
  · rw [active, recorded]
    -- A runner that runs stays on record, as only those that have stopped are dropped.
    refine Option.filter_eq_some_iff.mpr ⟨rfl, ?_⟩
    exact (runs_eq found).trans runs

end Recorded

/-- Every step of the event loop keeps what is known of the records. -/
theorem LoopSteps.recorded (held : Recorded s) (numbered : s.Numbered)
    (moved : s.LoopSteps e s' e') : Recorded s' := by
  cases moved with
  | told _ _ => exact held.leave s.alarms .away e.now
  | failed _ _ _ => exact held.leave _ _ e.now
  | @dispatched request rest _ _ _ _ =>
    have taken : Abides s { s with receiver := { s.receiver with queue := rest } } :=
      .of_same rfl rfl id (.inr rfl)
    exact (held.abides taken).dispatch request
  | ended _ _ _ _ _ => exact held.leave s.alarms s.closeCode e.now
  | reaped _ _ _ _ _ stopped => exact held.reap numbered stopped
  | wrote answers _ => exact held.abides (.of_same rfl rfl id (.inr (by rw [answers]; rfl)))
  | @answered m stage o' ok f start answers _ =>
    have written :
        Abides s { s with outlet := o', alarms := s.alarms.reportAny f, loop := .selecting } :=
      .of_same rfl rfl id (.inl rfl)
    cases start with
    | none => exact held.abides written
    | some due =>
      -- Those of the kind that still run were told to stop before the runner became due.
      have pending : s.loop.start? = some due := by rw [answers]; rfl
      exact (held.abides written).spawn due.1 due.2 rfl (held.pending due.1 due.2 pending)
  | drained _ _ => exact held.abides (.of_same rfl rfl id (.inl rfl))
  | aborted _ _ =>
    exact held.abides ((abortRunners_abides numbered e).trans (.of_same rfl rfl id (.inl rfl)))

/-- Every move keeps what is known of the records. -/
theorem Moves.recorded {m : Move} (held : Recorded s) (numbered : s.Numbered)
    (moved : s.Moves e m s' e') : Recorded s' := by
  cases moved with
  | looped steps => exact steps.recorded held numbered
  | ran found steps =>
    -- A runner that takes a step is in another phase, and ran before.
    exact held.abides (.of_set found rfl rfl steps.phase (fun _ => steps.running) rfl rfl)
  | closed steps => cases steps <;> exact held.abides (.of_same rfl rfl id (.inr rfl))
  | told => exact held.abides (.of_same rfl rfl (fun _ => rfl) (.inr rfl))
  | called _ => exact held.abides (.of_same rfl rfl (fun _ => rfl) (.inr rfl))
  | _ => exact held.abides (.of_same rfl rfl id (.inr rfl))

/-- A session that has just started has nothing on record. -/
theorem Begins.recorded (begins : Begins s) : Recorded s := by
  -- There are no runners and no entries.
  have runners := begins.runners
  refine ⟨fun kind id recorded => ?_, fun id r found => ?_, fun id r found => ?_,
    fun kind project due => ?_⟩
  · cases begins <;> cases kind <;> cases recorded
  · simp [runners] at found
  · simp [runners] at found
  · cases begins <;> cases due

/-- After any run, the records are of the runners that go on. -/
theorem Run.recorded (begins : Begins s₀) (run : Run s₀ e₀ past s e) : Recorded s :=
  run.keeps_along (P := fun _ s _ => Recorded s) begins.recorded fun run moved held =>
    (move_moves moved).recorded held (run.sound begins).numbered

/-! ### Requests that are taken -/

/-- A request that is taken is acted on. -/
theorem move_of_takes {request : Request} (takes : s.takes? = some request) :
    ∃ rest, s.receiver.queue = request :: rest ∧ s.move e (.task .eventLoop) =
      some ({ s with receiver := { s.receiver with queue := rest } }.dispatch request, e) := by
  unfold takes? at takes
  split at takes
  · next selects =>
    split at takes
    · next calm =>
      -- Nothing comes before the request, which is the first in the queue.
      obtain ⟨rest, waiting⟩ := List.head?_eq_some_iff.mp takes
      have calm : s.cancelled = false ∧ s.alarms.queue = [] := by simpa using calm
      refine ⟨rest, waiting, ?_⟩
      simp [move, step, stepLoop, selects, calm, Receiver.take?, waiting]
    · cases takes
  · cases takes

/-- When a client ends a subscription, the runners of the kind that still run are told to stop. -/
theorem Recorded.told_of_unsubscribe (held : Recorded s) {kind : ResourceKind}
    (takes : s.takes? = some (.unsubscribe (.known kind)))
    (moved : s.move e (.task .eventLoop) = some (s', e')) {id : Nat} {r : Runner}
    (found : s'.runners[id]? = some r) (same : r.kind = kind) (runs : r.isRunning = true) :
    s'.isTold r = true := by
  obtain ⟨rest, -, acts⟩ := move_of_takes (e := e) takes
  rw [acts] at moved
  cases moved
  have taken : Abides s { s with receiver := { s.receiver with queue := rest } } :=
    .of_same rfl rfl (fun told => told) (.inr rfl)
  have released := (held.abides taken).release kind
  -- Nothing is on record for a kind that is released.
  have none (t : Session) : (t.release kind).active.get kind = none := by
    unfold Session.release
    split
    · exact PerKind.get_set_self ..
    · next none => exact none
  have free (t u : Session) : ((t.release kind).active.get kind).any u.runs = false := by
    rw [none]
    rfl
  exact released.told_of_idle (free _ _) found same runs

end Session

end WatchRelay
