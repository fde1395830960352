import WatchRelay.Proofs.Session.Ending
import WatchRelay.Proofs.Session.Muted

/-! A session and another that goes the same way where no watch of a kind is ever opened: what the
event loop does to the one it does to the other. -/

namespace WatchRelay

namespace Session

variable {s t : Session} {e : Surroundings} {kind : ResourceKind} {names : Nat → Option Nat}

/-- Whether a runner of a kind runs and was not told to stop by itself. -/
def HasLive (s : Session) (kind : ResourceKind) : Prop :=
  ∃ (id : Nat) (r : Runner), s.runners[id]? = some r ∧ r.kind = kind ∧ r.isRunning = true ∧
    r.cancelled = false

/-- In a session that is not told to end, a runner on record runs where any does that was not told
to stop. -/
theorem Recorded.any_runs (held : Recorded s) (untold : s.cancelled = false) (kind : ResourceKind) :
    (s.active.get kind).any s.runs = true ↔ s.HasLive kind := by
  constructor
  · intro runs
    obtain ⟨id, recorded, runs⟩ := (Option.any_eq_true _ _).mp runs
    obtain ⟨r, found, own, uncancelled, -⟩ := held.entry kind id recorded
    exact ⟨id, r, found, own, (runs_eq found).symm.trans runs, uncancelled⟩
  -- Who runs and was not told to stop is the one on record.
  · rintro ⟨id, r, found, rfl, runs, uncancelled⟩
    have recorded := held.live id r found runs (by simp [isTold, uncancelled, untold])
    rw [recorded, Option.any_some, runs_eq found, runs]

/-- How a session stands to another in which no watch of a kind is ever opened.

An acknowledgment may be written there without a runner of the kind being due, where one is waiting
for its watch. -/
structure Mutes (kind : ResourceKind) (names : Nat → Option Nat) (s t : Session) : Prop where
  rest : ∃ outlet loop active runners, t = { s with outlet, loop, active, runners }
  outlet : s.outlet.Mutes kind (Writer.under names) t.outlet
  loop : t.loop = s.loop ∨ ∃ m stage project,
    s.loop = .acknowledging m stage (some (kind, project)) ∧
      t.loop = .acknowledging m stage none ∧ t.HasLive kind
  peers : Peers kind names s.cancelled s.runners t.runners
  live : s.cancelled = false → s.HasLive kind → t.HasLive kind
  /-- There the runners of the kind wait for the backend. -/
  waits : s.cancelled = false → ∀ (id : Nat) (r : Runner), t.runners[id]? = some r →
    r.kind = kind → r.isRunning = true → r.phase = .opening

namespace Mutes

/-- Both event loops do the same where no runner is due. -/
theorem loop_eq (mutes : Mutes kind names s t) (idle : s.loop.start? = none) : t.loop = s.loop := by
  -- The loops differ only while one of them is about to start a runner.
  rcases mutes.loop with same | ⟨m, stage, project, answers, -⟩
  · exact same
  · rw [answers] at idle
    cases idle

theorem loopFinished (mutes : Mutes kind names s t) : t.loopFinished = s.loopFinished := by
  -- A loop that acknowledges has not finished, whatever it will start.
  rcases mutes.loop with same | ⟨m, stage, project, answers, answers', -⟩
  · rw [Session.loopFinished, same, Session.loopFinished]
  · simp [Session.loopFinished, answers, answers']

/-- Runners of other kinds go on in both sessions. -/
theorem live_iff (mutes : Mutes kind names s t) (untold : s.cancelled = false) {k : ResourceKind}
    (other : k ≠ kind) : s.HasLive k ↔ t.HasLive k := by
  have peers := mutes.peers
  rw [untold] at peers
  constructor
  -- Runners that do the same are told to stop alike as long as they run.
  · rintro ⟨i, r, found, rfl, runs, uncancelled⟩
    obtain ⟨j, r', -, found', alike⟩ := peers.there found other
    refine ⟨j, r', found', alike.kind, alike.isRunning.trans runs, ?_⟩
    simpa [uncancelled] using alike.told runs
  · rintro ⟨j, r', found', rfl, runs, uncancelled⟩
    obtain ⟨i, r, -, found, alike⟩ := peers.here found' other
    have runs := alike.isRunning.symm.trans runs
    refine ⟨i, r, found, alike.kind.symm, runs, ?_⟩
    simpa [uncancelled] using (alike.told runs).symm

end Mutes

/-! ### Telling runners to stop -/

/-- Releasing a kind changes nothing but the records and the runners. -/
theorem release_changes (s : Session) (k : ResourceKind) :
    ∃ active runners, s.release k = { s with active, runners } := by
  -- Only the record and the runners have to do with a release.
  unfold release
  split
  · exact ⟨_, _, rfl⟩
  · exact ⟨s.active, s.runners, rfl⟩

/-- Releasing a kind tells the runners of the kind to stop that were not told, and no others. -/
theorem Recorded.release_found (held : Recorded s) (untold : s.cancelled = false) (k : ResourceKind)
    {id : Nat} {r : Runner} (found : s.runners[id]? = some r) :
    ∃ told, (s.release k).runners[id]? = some { r with cancelled := told } ∧
      (r.isRunning = true → told = (r.cancelled || decide (r.kind = k))) := by
  -- A runner that runs and was not told to stop is the one on record.
  have live (runs : r.isRunning = true) (uncancelled : r.cancelled = false) :
      s.active.get r.kind = some id :=
    held.live id r found runs (by simp [isTold, uncancelled, untold])
  cases recorded : s.active.get k with
  -- Where nothing is on record for the kind, all of it that run were told before.
  | none =>
    refine ⟨r.cancelled, by simpa [Session.release, recorded] using found, fun runs => ?_⟩
    by_cases own : r.kind = k
    · have told : r.cancelled = true := by
        refine Bool.of_not_eq_false fun uncancelled => ?_
        rw [← own, live runs uncancelled] at recorded
        cases recorded
      simp [told]
    · simp [own]
  | some place =>
    have runners : (s.release k).runners =
        s.runners.modify place fun r => { r with cancelled := true } := by
      simp [Session.release, recorded, cancelRunner, modifyRunner]
    obtain ⟨q, there, kinds, -⟩ := held.entry k place recorded
    rw [runners, List.getElem?_modify, found]
    -- The runner on record is told now, and the others of the kind were told before.
    by_cases own : place = id
    · subst own
      rw [found] at there
      cases there
      exact ⟨true, by simp, fun _ => by simp [kinds]⟩
    · refine ⟨r.cancelled, by simp [own], fun runs => ?_⟩
      by_cases same : r.kind = k
      · have told : r.cancelled = true := by
          refine Bool.of_not_eq_false fun uncancelled => ?_
          rw [← same, live runs uncancelled] at recorded
          exact own (Option.some.inj recorded).symm
        simp [told]
      · simp [same]

/-- A runner that is there once a kind is released was there before. -/
theorem release_back (k : ResourceKind) {id : Nat} {r : Runner}
    (there : (s.release k).runners[id]? = some r) :
    ∃ q, s.runners[id]? = some q ∧ r.kind = q.kind ∧ r.phase = q.phase := by
  -- A release tells the runner, and leaves its kind and its phase.
  obtain ⟨q, found, same, -⟩ := release_fate rfl rfl k there
  have kinds := congrArg Runner.kind same
  exact ⟨q, found, kinds, Runner.phase_of_core same⟩

/-- A runner that was not told to stop goes on where another kind is released, and only there. -/
theorem Recorded.live_release (held : Recorded s) (untold : s.cancelled = false)
    (k : ResourceKind) : (s.release k).HasLive kind ↔ kind ≠ k ∧ s.HasLive kind := by
  constructor
  · rintro ⟨id, r, there, rfl, runs, uncancelled⟩
    obtain ⟨q, found, -, -⟩ := release_back k there
    obtain ⟨told, there', same⟩ := held.release_found untold k found
    rw [there] at there'
    cases there'
    -- Neither was it told before, nor is it of the kind that is released.
    have told : false = (q.cancelled || decide (q.kind = k)) :=
      Eq.trans (Eq.symm uncancelled) (same runs)
    simp only [Bool.false_eq, Bool.or_eq_false_iff, decide_eq_false_iff_not] at told
    exact ⟨told.2, id, q, found, rfl, runs, told.1⟩
  · rintro ⟨other, id, r, found, rfl, runs, uncancelled⟩
    obtain ⟨told, there, same⟩ := held.release_found untold k found
    exact ⟨id, _, there, rfl, runs, by simpa [uncancelled, other] using same runs⟩

/-- Releasing a kind leaves the sessions as they stand to each other. -/
theorem Mutes.release (mutes : Mutes kind names s t) (held : Recorded s) (held' : Recorded t)
    (untold : s.cancelled = false) (idle : s.loop.start? = none) (k : ResourceKind) :
    Mutes kind names (s.release k) (t.release k) := by
  have untold' : t.cancelled = false := by
    obtain ⟨_, _, _, _, rfl⟩ := mutes.rest
    exact untold
  obtain ⟨loop, cancelled, -⟩ := s.release_loop k
  obtain ⟨loop', -⟩ := t.release_loop k
  refine ⟨?_, ?_, .inl (by rw [loop, loop', mutes.loop_eq idle]), ?_, fun _ live => ?_,
    fun _ id r there own runs => ?_⟩
  · obtain ⟨o', l', a', rs', rfl⟩ := mutes.rest
    obtain ⟨active, runners, same⟩ := s.release_changes k
    obtain ⟨active', runners', same'⟩ :=
      release_changes { s with outlet := o', loop := l', active := a', runners := rs' } k
    exact ⟨o', l', active', runners', by rw [same, same']⟩
  · rw [(s.release_work k).outlet, (t.release_work k).outlet]
    exact mutes.outlet
  · rw [cancelled]
    -- Releasing a kind changes of a runner only whether it is told to stop.
    refine mutes.peers.goOn (fun i r there => ?_) (fun j r there => ?_) ?_
    · obtain ⟨q, found, same, -⟩ := release_back k there
      exact ⟨q, found, same⟩
    · obtain ⟨q, found, same, phase⟩ := release_back k there
      exact ⟨q, found, same, fun _ without => by rw [Runner.watch?, phase]; exact without⟩
    · intro i j r r' _ found found' _ alike
      obtain ⟨told, there, same⟩ := held.release_found untold k found
      obtain ⟨told', there', same'⟩ := held'.release_found untold' k found'
      refine ⟨_, _, there, there', alike.kind, alike.project, alike.phase, fun runs => ?_⟩
      -- Both are told now if they are of the kind, and otherwise if they were told before.
      have before := alike.told runs
      rw [untold, Bool.or_false, Bool.or_false] at before ⊢
      show told' = told
      rw [same runs, same' (alike.isRunning.trans runs), before, alike.kind]
  -- A runner of the kind goes on in both sessions, or in none as it is the kind that is released.
  · obtain ⟨other, live⟩ := (held.live_release untold k).mp live
    exact (held'.live_release untold' k).mpr ⟨other, mutes.live untold live⟩
  · obtain ⟨q, found, same, phase⟩ := release_back k there
    rw [Runner.isRunning, phase, ← Runner.isRunning] at runs
    exact phase.trans (mutes.waits untold id q found (same.symm.trans own) runs)

/-- Whether behind an acknowledgment the same runner is due in the other session, or none since one
of the kind runs there. -/
def StartsAlike (t : Session) (kind : ResourceKind)
    (start start' : Option (ResourceKind × String)) :
    Prop :=
  start' = start ∨ ∃ project, start = some (kind, project) ∧ start' = none ∧ t.HasLive kind

/-- The same acknowledgment is written in the other session. -/
theorem Mutes.acknowledging (mutes : Mutes kind names s t) {m : Message} {stage : WriteStage}
    {start : Option (ResourceKind × String)} (answers : s.loop = .acknowledging m stage start) :
    ∃ start', t.loop = .acknowledging m stage start' ∧ t.StartsAlike kind start start' := by
  -- Both acknowledge the same message, and start what they start alike.
  rcases mutes.loop with same | ⟨m', stage', project, same, same', there⟩
  · exact ⟨start, same.trans answers, .inl rfl⟩
  · rw [answers] at same
    cases same
    exact ⟨none, same', .inr ⟨project, rfl, rfl, there⟩⟩

/-- An acknowledgment is written in both sessions. -/
theorem Mutes.setAcknowledging (mutes : Mutes kind names s t) {o o' : Outlet}
    (outlet : o.Mutes kind (Writer.under names) o') (m : Message) (stage : WriteStage)
    {start start' : Option (ResourceKind × String)} (starts : t.StartsAlike kind start start') :
    Mutes kind names { s with outlet := o, loop := .acknowledging m stage start }
      { t with outlet := o', loop := .acknowledging m stage start' } := by
  obtain ⟨⟨_, _, a', rs', rfl⟩, -, -, peers, live, waits⟩ := mutes
  refine ⟨⟨_, _, a', rs', rfl⟩, outlet, ?_, peers, live, waits⟩
  -- Either both start the same, or one starts a runner of the kind and the other does not.
  rcases starts with rfl | ⟨project, rfl, rfl, there⟩
  · exact .inl rfl
  · exact .inr ⟨m, stage, project, rfl, rfl, there⟩

/-- Both event loops select again behind what they have written. -/
theorem Mutes.setSelecting (mutes : Mutes kind names s t) {o o' : Outlet}
    (outlet : o.Mutes kind (Writer.under names) o') (f : Option SessionFailure) :
    Mutes kind names (s.acknowledged o f none) (t.acknowledged o' f none) := by
  obtain ⟨⟨_, _, a', rs', rfl⟩, -, -, peers, live, waits⟩ := mutes
  exact ⟨⟨_, _, a', rs', rfl⟩, outlet, .inl rfl, peers, live, waits⟩

/-- A request is acted on in both sessions. -/
theorem Mutes.dispatch (mutes : Mutes kind names s t) (held : Recorded s) (held' : Recorded t)
    (untold : s.cancelled = false) (idle : s.loop.start? = none) (request : Request) :
    Mutes kind names (s.dispatch request) (t.dispatch request) := by
  have untold' : t.cancelled = false := by
    obtain ⟨_, _, _, _, rfl⟩ := mutes.rest
    exact untold
  cases request with
  | subscribe named project =>
    refine mutes.setAcknowledging (mutes.outlet.join rfl) _ .queued ?_
    cases known : named.resource? with
    | none => exact .inl rfl
    | some k =>
      -- A runner is due where none on record runs.
      have runs := held.any_runs untold k
      have runs' := held'.any_runs untold' k
      simp only
      by_cases other : k = kind
      · subst other
        -- One that runs here runs there too, but not the other way round: where it has failed here,
        -- it still waits for its watch there, and no new one is due.
        by_cases live : s.HasLive k
        · rw [if_pos (runs.mpr live), if_pos (runs'.mpr (mutes.live untold live))]
          exact .inl rfl
        · rw [if_neg (mt runs.mp live)]
          split
          · next there => exact .inr ⟨project, rfl, rfl, runs'.mp there⟩
          · exact .inl rfl
      · have same : (t.active.get k).any t.runs = (s.active.get k).any s.runs := by
          rw [Bool.eq_iff_iff, runs, runs', mutes.live_iff untold other]
        rw [same]
        exact .inl rfl
  | unsubscribe named =>
    cases known : named.resource? with
    | none =>
      simp only [Session.dispatch, known]
      exact mutes.setAcknowledging (mutes.outlet.join rfl) _ .queued (.inl rfl)
    | some k =>
      simp only [Session.dispatch, known]
      have released := mutes.release held held' untold idle k
      exact released.setAcknowledging (released.outlet.join rfl) _ .queued (.inl rfl)
  | ignored _ => exact mutes

/-- Leaving the event loop changes the state, the records and the runners. -/
theorem leave_changes (s : Session) (now : Nat) : ∃ active runners,
    s.leave now =
      { s with
        state := s.state.advance .closing
        cancelled := true
        loop := .draining (now + s.config.teardownTimeout)
        active
        runners } := by
  -- The kinds are released one after the other.
  have releases (kinds : List ResourceKind) (t : Session) :
      ∃ active runners, kinds.foldl Session.release t = { t with active, runners } := by
    induction kinds generalizing t with
    | nil => exact ⟨t.active, t.runners, rfl⟩
    | cons k rest ih =>
      obtain ⟨_, _, first⟩ := t.release_changes k
      obtain ⟨active, runners, others⟩ := ih (t.release k)
      exact ⟨active, runners, by rw [List.foldl_cons, others, first]⟩
  obtain ⟨active, runners, same⟩ := releases ResourceKind.all s.beginClosing
  exact ⟨active, runners, by rw [leave, same]; rfl⟩

/-- Both event loops are left. -/
theorem Mutes.leave (mutes : Mutes kind names s t) (now : Nat) :
    Mutes kind names (s.leave now) (t.leave now) := by
  have work := (leave_work s s.alarms s.closeCode now).runners
  have work' := (leave_work t t.alarms t.closeCode now).runners
  obtain ⟨⟨o', l', a', rs', rfl⟩, outlet, -, peers, -, -⟩ := mutes
  obtain ⟨active, runners, same⟩ := s.leave_changes now
  obtain ⟨active', runners', same'⟩ :=
    leave_changes { s with outlet := o', loop := l', active := a', runners := rs' } now
  change (s.leave now).runners.map _ = _ at work
  change (leave { s with outlet := o', loop := l', active := a', runners := rs' } now).runners.map
    _ =
    _ at work'
  rw [same] at work ⊢
  rw [same'] at work' ⊢
  -- Now that all are told to stop, nothing is asked of the runners any more.
  exact ⟨⟨_, _, _, _, rfl⟩, outlet, .inl rfl, peers.tellAll work work',
    fun untold => (nomatch untold), fun untold => (nomatch untold)⟩

/-! ### Starting and stopping runners -/

/-- Nobody is in line for a runner that is still to be started. -/
theorem Sound.next_not_in_line (sound : s.Sound) :
    Writer.runner s.runners.length ∉ s.outlet.line := by
  intro member
  -- Who is in line is about something, and it is not there yet.
  have inLine := (sound.orderly.inLine _).mp member
  simp [writeSide, errand, Errand.isInLine] at inLine

/-- Where no runner runs, none is in line. -/
theorem Sound.no_runner_in_line (sound : s.Sound) (ended : ∀ r ∈ s.runners, r.isRunning = false)
    (id : Nat) : Writer.runner id ∉ s.outlet.line := by
  intro member
  have inLine := (sound.orderly.inLine _).mp member
  cases found : s.runners[id]? with
  | none => simp [writeSide, errand, Errand.isInLine, found] at inLine
  | some r =>
    -- A runner that has stopped is about nothing.
    have stopped := ended r (List.mem_of_getElem? found)
    have idle : r.errand? = none := by
      unfold Runner.errand?
      unfold Runner.isRunning at stopped
      split <;> simp_all
    simp [writeSide, errand, Errand.isInLine, found, idle] at inLine

/-- A runner that is started in the session and in the other, which asks for its watch there in vain
unless it is told to stop before. -/
def spawnSilent (t : Session) (kind : ResourceKind) (project : String) : Session :=
  { t.spawn kind project with
    runners := t.runners ++
      [{ Runner.new t.runners.length kind project with
          phase := if t.cancelled then .spawned else .opening }] }

/-- A runner of another kind is started in both sessions. -/
theorem Mutes.spawn (mutes : Mutes kind names s t) (loop : t.loop = s.loop)
    (free : Writer.runner s.runners.length ∉ s.outlet.line) {k : ResourceKind}
    (other : k ≠ kind)
    (project : String) : ∃ names, Mutes kind names (s.spawn k project) (t.spawn k project) := by
  obtain ⟨⟨o', l', a', rs', rfl⟩, outlet, -, peers, live, waits⟩ := mutes
  have alike : (Runner.new s.runners.length k project).Alike s.cancelled
      (Runner.new rs'.length k project) := ⟨rfl, rfl, rfl, fun _ => rfl⟩
  refine ⟨_, ⟨_, _, _, _, rfl⟩, outlet.congr fun w member => ?_, .inl loop,
    peers.start other alike, fun untold there => ?_, fun untold id r there own runs => ?_⟩
  · -- The number of the new runner is of nobody in line.
    cases w with
    | runner id =>
      have differ : id ≠ s.runners.length := by
        rintro rfl
        exact free member
      simp [Writer.under, differ]
    | _ => rfl
  -- The runner that is started is not of the kind, so it is one that was there.
  · obtain ⟨id, r, there, own, runs, uncancelled⟩ := there
    rcases found_of_concat there with found | ⟨-, -, rfl⟩
    · obtain ⟨j, q, found', rest⟩ := live untold ⟨id, r, found, own, runs, uncancelled⟩
      obtain ⟨inside, -⟩ := List.getElem?_eq_some_iff.mp found'
      exact ⟨j, q, (List.getElem?_append_left inside).trans found', rest⟩
    · exact absurd own other
  · rcases found_of_concat there with found | ⟨-, -, rfl⟩
    · exact waits untold id r found own runs
    · exact absurd own other

/-- A runner of the kind is started in both sessions. -/
theorem Mutes.spawnSilent (mutes : Mutes kind names s t) (loop : t.loop = s.loop)
    (project : String) :
    Mutes kind names (s.spawn kind project) (t.spawnSilent kind project) := by
  obtain ⟨⟨o', l', a', rs', rfl⟩, outlet, -, peers, live, waits⟩ := mutes
  refine ⟨⟨_, _, _, _, rfl⟩, outlet, .inl loop, (peers.startOwn rfl).startOwn' rfl ?_,
    fun untold _ => ?_, fun untold id r there own runs => ?_⟩
  · cases s.cancelled <;> rfl
  -- The one that is started there goes on waiting, whatever becomes of the one here.
  · have untold : s.cancelled = false := untold
    refine ⟨rs'.length, _, List.getElem?_concat_length, rfl, ?_, rfl⟩
    simp [Runner.isRunning, untold]
  · have untold : s.cancelled = false := untold
    rcases found_of_concat there with found | ⟨-, -, rfl⟩
    · exact waits untold id r found own runs
    · simp [untold]

/-- A runner of the kind is started in the session alone, where one waits for its watch in the
other. -/
theorem Mutes.spawnOwn (mutes : Mutes kind names s t) (loop : t.loop = s.loop)
    (there : t.HasLive kind) (project : String) : Mutes kind names (s.spawn kind project) t := by
  obtain ⟨⟨o', l', a', rs', rfl⟩, outlet, -, peers, live, waits⟩ := mutes
  exact ⟨⟨_, _, _, _, rfl⟩, outlet, .inl loop, peers.startOwn rfl, fun _ _ => there, waits⟩

/-- Stopping the runners from outside changes only them and the line, in the time it is. -/
theorem abortRunners_changes (numbered : s.Numbered) (e : Surroundings) :
    (∃ outlet runners, (s.abortRunners e).1 = { s with outlet, runners }) ∧
      (s.abortRunners e).2.now = e.now ∧
      (s.abortRunners e).2.source.openings = e.source.openings := by
  refine abortRunners_keeps
    (P := fun t x => (∃ outlet runners, t = { s with outlet, runners }) ∧
    x.now = e.now ∧ x.source.openings = e.source.openings) numbered
      ⟨⟨_, _, rfl⟩, rfl, rfl⟩ ?_
  rintro t x r - ⟨⟨outlet, runners, rfl⟩, now, openings⟩
  refine ⟨⟨_, _, rfl⟩, ?_⟩
  -- A runner that is stopped lets its watch go, and its counts are changed.
  rw [← now, ← openings]
  simp only [abortRunner, Runner.abort, Runner.letGo]
  cases r.watch? <;> split
  · split <;> exact ⟨rfl, rfl⟩
  · exact ⟨rfl, rfl⟩
  · split <;> exact ⟨rfl, rfl⟩
  · exact ⟨rfl, rfl⟩

/-- A runner that is stopped from outside is stopped where it runs, and is left as it is
otherwise. -/
theorem abortRunners_runner (numbered : s.Numbered) (e : Surroundings) {id : Nat} {r : Runner}
    (found : s.runners[id]? = some r) : ∃ r', (s.abortRunners e).1.runners[id]? = some r' ∧
      r' = if r.isRunning then { r with phase := .aborted } else r := by
  -- No runner is added or taken out while they are stopped.
  have same : (s.abortRunners e).1.runners.length = s.runners.length :=
    abortRunners_keeps (P := fun t _ => t.runners.length = s.runners.length) numbered rfl
      fun _ held => by simpa [abortRunner] using held
  obtain ⟨inside, -⟩ := List.getElem?_eq_some_iff.mp found
  obtain ⟨r', there⟩ : ∃ r', (s.abortRunners e).1.runners[id]? = some r' :=
    ⟨_, List.getElem?_eq_getElem (same.symm ▸ inside)⟩
  refine ⟨r', there, ?_⟩
  obtain ⟨q, before, which⟩ := abortRunners_found numbered e there
  rw [found] at before
  cases before
  have ended := abortRunners_stopped numbered e r' (List.mem_of_getElem? there)
  rcases which with rfl | ⟨runs, stopped⟩
  · -- What is as it was does not run.
    rw [ended, if_neg (by simp)]
  · rw [stopped, runs, if_pos rfl]

/-- The line without the runners. -/
def lineBeside (s : Session) : List Writer := s.outlet.line.filterMap (Writer.under fun _ => none)

/-- Runners that are stopped from outside leave the others in line. -/
theorem abortRunners_line (numbered : s.Numbered) (e : Surroundings) :
    (s.abortRunners e).1.lineBeside = s.lineBeside := by
  -- Only runners leave the line, and those are not looked at.
  refine abortRunners_keeps (P := fun t _ => t.lineBeside = s.lineBeside) numbered rfl ?_
  intro t x r _ held
  rw [← held]
  show (r.abort t.outlet x).2.1.line.filterMap _ = t.outlet.line.filterMap _
  rcases abort_outlet r t.outlet x with same | left
  · rw [same]
  · rw [left]
    exact Renames.filterMap_erase_of_none rfl t.outlet.line

/-- Where no runner is in line, the numbers of runners do not matter to it. -/
theorem line_under (clear : ∀ id, Writer.runner id ∉ s.outlet.line) (names : Nat →
    Option Nat) :
    s.outlet.line.filterMap (Writer.under names) = s.outlet.line := by
  -- The others in line keep their names.
  rw [List.filterMap_congr (g := some), List.filterMap_some]
  intro w member
  cases w with
  | runner id => exact absurd member (clear id)
  | _ => rfl

/-- Where the runners that are left are stopped from outside, the write sides stand as they did. -/
theorem Mutes.abort_outlet (mutes : Mutes kind names s t) (numbered : s.Numbered)
    (numbered' : t.Numbered) {e e' : Surroundings}
    (clear : ∀ id, Writer.runner id ∉ (s.abortRunners e).1.outlet.line)
    (clear' : ∀ id, Writer.runner id ∉ (t.abortRunners e').1.outlet.line) :
    (s.abortRunners e).1.outlet.Mutes kind (Writer.under names) (t.abortRunners e').1.outlet := by
  -- All but the line is as it was.
  have rest {α : Type} (f : Outlet → α) (leaves : ∀ o w, f (o.leave w) = f o)
      (same : f t.outlet = f s.outlet) :
      f (t.abortRunners e').1.outlet = f (s.abortRunners e).1.outlet := by
    rw [abortRunners_outlet f leaves numbered', abortRunners_outlet f leaves numbered, same]
  refine ⟨rest _ (fun _ _ => rfl) mutes.outlet.writable,
    rest _ (fun _ _ => rfl) mutes.outlet.wire, rest _ (fun _ _ => rfl) mutes.outlet.limit, ?_, ?_⟩
  · have beside : t.lineBeside = s.lineBeside := by
      rw [lineBeside, mutes.outlet.line, List.filterMap_filterMap]
      refine List.filterMap_congr fun w _ => ?_
      -- A runner is not beside the runners, whatever its number.
      cases w with
      | runner id => cases named : names id <;> simp [Writer.under, named]
      | _ => rfl
    -- Once no runner is in line any more, the lines are those of the others.
    rw [line_under clear names, ← line_under clear fun _ => none,
      ← line_under clear' fun _ => none]
    exact (abortRunners_line numbered' e').trans (beside.trans (abortRunners_line numbered e).symm)
  · rw [abortRunners_outlet Outlet.story (fun _ _ => rfl) numbered',
      abortRunners_outlet Outlet.story (fun _ _ => rfl) numbered, mutes.outlet.story]

/-- Where the runners that are left are stopped from outside, they stand to each other as they
did. -/
theorem Mutes.abort_peers (mutes : Mutes kind names s t) (numbered : s.Numbered)
    (numbered' : t.Numbered) (e e' : Surroundings) :
    Peers kind names true (s.abortRunners e).1.runners (t.abortRunners e').1.runners := by
  refine mutes.peers.goOn (fun i r there => ?_) (fun j r there => ?_) ?_
  · obtain ⟨q, found, rfl | ⟨-, rfl⟩⟩ := abortRunners_found numbered e there
    · exact ⟨_, found, rfl⟩
    · exact ⟨q, found, rfl⟩
  · obtain ⟨q, found, rfl | ⟨-, rfl⟩⟩ := abortRunners_found numbered' e' there
    · exact ⟨_, found, rfl, fun _ without => without⟩
    · exact ⟨q, found, rfl, fun _ _ => rfl⟩
  · intro i j r r' _ found found' _ alike
    obtain ⟨r₁, there, same⟩ := abortRunners_runner numbered e found
    obtain ⟨r₁', there', same'⟩ := abortRunners_runner numbered' e' found'
    refine ⟨r₁, r₁', there, there', ?_⟩
    -- Of two runners that do the same, both are stopped or none.
    rw [same, same', alike.isRunning]
    split
    · exact ⟨alike.kind, alike.project, rfl, fun _ => by simp⟩
    · exact ⟨alike.kind, alike.project, alike.phase, fun _ => by simp⟩

/-- The runners that are left are stopped from outside in both sessions, and the event loops end. -/
theorem Mutes.abort (mutes : Mutes kind names s t) (numbered : s.Numbered)
    (numbered' : t.Numbered) (told : s.cancelled = true) (e e' : Surroundings)
    (clear : ∀ id, Writer.runner id ∉ (s.abortRunners e).1.outlet.line)
    (clear' : ∀ id, Writer.runner id ∉ (t.abortRunners e').1.outlet.line) (phase : LoopPhase) :
    Mutes kind names ((s.abortRunners e).1.endLoop phase)
      ((t.abortRunners e').1.endLoop phase) := by
  have outlet := mutes.abort_outlet numbered numbered' clear clear'
  have peers := mutes.abort_peers numbered numbered' e e'
  obtain ⟨⟨o', l', a', rs', rfl⟩, -⟩ := mutes
  obtain ⟨⟨outlet₁, runners₁, same⟩, -⟩ := abortRunners_changes numbered e
  obtain ⟨⟨outlet₁', runners₁', same'⟩, -⟩ := abortRunners_changes numbered' e'
  rw [same, same'] at outlet peers ⊢
  -- All are told to stop, so nothing else is asked of them.
  refine ⟨⟨_, _, _, _, rfl⟩, outlet, .inl rfl, ?_, fun untold => ?_, fun untold => ?_⟩
  · show Peers kind names s.cancelled runners₁ runners₁'
    rw [told]
    exact peers
  · exact absurd (told.symm.trans untold) (by simp)
  · exact absurd (told.symm.trans untold) (by simp)

end Session

end WatchRelay
