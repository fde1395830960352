import WatchRelay.Proofs.Session.Echoes
import WatchRelay.Proofs.Session.Watches

/-! A kind whose backend fails: neither the other kinds nor the connection are any the wiser. -/

namespace WatchRelay

namespace Backend

/-- What a backend keeps for a watch: how far the watch is with the feed of its kind, or what is
still to be played. -/
inductive Stream where
  | followed (watch : Watch) (feed : Feed)
  | played (feed : PlayedFeed)

/-- What is kept for the watch with a number. -/
def stream? (b : Backend) (id : Nat) : Option Stream :=
  match b with
  | .catalog hub => (hub.watch? id).map fun w => .followed w (hub.feed w.request.kind)
  | .played list => (list.feeds.lookup id).map .played

/-- The number of the next watch. -/
def nextWatch : Backend → Nat
  | .catalog hub => hub.nextWatch
  | .played list => list.nextFeed

variable {b b' : Backend} {id other : Nat}

/-- Reading from a watch is nothing to the others. -/
theorem stream?_read (differ : other ≠ id) (now : Nat) :
    (b.read now id).2.stream? other = b.stream? other := by
  cases b with
  | catalog hub =>
    -- A feed is the same for all that watch it, and reading takes nothing from it.
    have feeds (k : ResourceKind) : (hub.read id).2.feed k = hub.feed k := by
      rw [Hub.feed, (hub.read_frame id).1, Hub.feed]
    simp [read, stream?, Hub.watch?_read, differ, feeds]
  | played list =>
    simp only [read, stream?, Playlist.read]
    -- Only the feed that is read is replaced.
    cases list.feeds.lookup id with
    | none => rfl
    | some feed => simp [Lookup.replace, differ]

/-- Closing a watch is nothing to the others. -/
theorem stream?_close (differ : other ≠ id) : (b.close id).stream? other = b.stream? other := by
  cases b with
  | catalog hub =>
    have feeds (k : ResourceKind) : (hub.close id).feed k = hub.feed k := rfl
    simp [close, stream?, Hub.watch?_close, differ, feeds]
  | played list =>
    -- Only the feed that is closed is taken out.
    exact congrArg (Option.map Stream.played)
      ((Lookup.filter_ne list.feeds id other).trans (if_neg differ))

/-- Reading from a watch gives no number. -/
theorem nextWatch_read (now : Nat) : (b.read now id).2.nextWatch = b.nextWatch := by
  -- Reading opens nothing, and numbers are given in opening.
  cases b with
  | catalog hub => exact (hub.read_frame id).2.2
  | played list =>
    simp only [read, nextWatch, Playlist.read]
    split <;> rfl

/-- Closing a watch gives no number. -/
theorem nextWatch_close : (b.close id).nextWatch = b.nextWatch := by cases b <;> rfl

/-- A request for a watch is refused and changes nothing, or is given the next number. -/
theorem openWatch_gives (b : Backend) (request : WatchRequest) (credentials : Credentials) :
    (∃ failure, b.openWatch request credentials = (.refused failure, b)) ∨
      (b.openWatch request credentials).1 = .opened b.nextWatch ∧
        (b.openWatch request credentials).2.nextWatch = b.nextWatch + 1 := by
  -- The hub gives the next number or refuses, and what is played always opens.
  cases b with
  | catalog hub =>
    cases answer : hub.openWatch request credentials with
    | ok opened =>
      obtain ⟨id, hub'⟩ := opened
      obtain ⟨rfl, rfl⟩ := Hub.openWatch_ok answer
      refine .inr ⟨?_, ?_⟩ <;> simp only [openWatch, answer] <;> rfl
    | error failure => exact .inl ⟨failure, by simp only [openWatch, answer]⟩
  | played list => exact .inr ⟨rfl, rfl⟩

end Backend

/-- A request for a watch leaves the backend as it is, or is given the next number. -/
theorem Source.openWatch_gives (source : Source) (request : WatchRequest)
    (credentials : Credentials) :
    (∀ w, (source.openWatch request credentials).1 ≠ .opened w) ∧
        (source.openWatch request credentials).2.backend = source.backend ∨
      (source.openWatch request credentials).1 = .opened source.backend.nextWatch ∧
        (source.openWatch request credentials).2.backend.nextWatch =
          source.backend.nextWatch + 1 := by
  -- Only where requests are taken as they come is the backend asked at all.
  unfold Source.openWatch
  cases source.openings.get request.kind with
  | normal =>
    rcases source.backend.openWatch_gives request credentials with ⟨failure, refused⟩ | given
    · exact .inl (by simp [refused])
    · exact .inr given
  | _ => exact .inl (by simp)

namespace Surroundings

/-- What the backend keeps for a watch. -/
def stream? (e : Surroundings) (w : Nat) : Option Backend.Stream := e.source.backend.stream? w

/-- The number that the backend gives to the next watch. -/
def nextWatch (e : Surroundings) : Nat := e.source.backend.nextWatch

variable {e : Surroundings} {own w : Nat}

theorem stream?_close (other : w ≠ own) : (e.close own).stream? w = e.stream? w :=
  Backend.stream?_close other

theorem stream?_read (other : w ≠ own) :
    stream? { e with source := (e.source.read e.now own).2 } w = e.stream? w :=
  Backend.stream?_read other e.now

theorem nextWatch_close : (e.close own).nextWatch = e.nextWatch := Backend.nextWatch_close

theorem nextWatch_read :
    nextWatch { e with source := (e.source.read e.now own).2 } = e.nextWatch :=
  Backend.nextWatch_read e.now

end Surroundings

namespace Runner

variable {r r' : Runner} {o o' : Outlet} {e e' : Surroundings} {credentials : Credentials}
  {stopped : Bool} {failure : Option SessionFailure} {reason : RunnerEnd} {w : Nat}

/-- How the backend makes a runner stop in its next step, if it does: it refuses the watch, or
reading from it fails or finds its end. -/
def failing? (r : Runner) (e : Surroundings) (credentials : Credentials) : Option RunnerEnd :=
  match r.phase with
  | .spawned =>
    match (e.source.openWatch (.live r.kind r.project) credentials).1 with
    | .refused _ => some .openFailed
    | .opened _ | .never | .crash => none
  | .streaming w =>
    match (e.source.read e.now w).1 with
    | .failure _ => some .streamFailed
    | .ended => some .streamEnded
    | .event _ | .crash | .passed | .pending => none
  | .opening | .forwarding _ _ _ | .finished _ | .crashed | .aborted => none

/-- A runner that lets its watch go leaves the others alone. -/
theorem stream?_letGo (other : r.watch? ≠ some w) : (r.letGo e).stream? w = e.stream? w := by
  -- A runner lets go of its own watch, which is another one.
  unfold letGo
  split
  · next own held =>
    refine Surroundings.stream?_close fun same => other ?_
    rw [held, same]
  · rfl

/-- A runner that stops leaves the watches of the others alone. -/
theorem stream?_finish (other : r.watch? ≠ some w) (o : Outlet) (reason : RunnerEnd)
    (failure : Option SessionFailure) :
    (r.finish o e reason failure).2.2.1.stream? w = e.stream? w := by
  unfold finish
  dsimp only
  -- What is counted besides is no matter of the watches.
  split <;> exact stream?_letGo other

/-- A runner that is stopped by its backend writes nothing, reports nothing, and leaves the watches
of the others alone. -/
theorem step_of_failing (fails : r.failing? e credentials = some reason) (o : Outlet) :
    ∃ e', r.step o e credentials false =
      some ({ r with phase := .finished reason }, o, e', none) ∧
      ∀ w, r.watch? ≠ some w → e'.stream? w = e.stream? w := by
  unfold failing? at fails
  split at fails
  · next spawned =>
    split at fails
    · next refusal refused =>
      cases fails
      -- What is refused leaves the backend as it is.
      have same : (e.source.openWatch (.live r.kind r.project) credentials).2.backend =
          e.source.backend := by
        rcases e.source.openWatch_gives (.live r.kind r.project) credentials with
          ⟨-, same⟩ | ⟨opened, -⟩
        · exact same
        · rw [refused] at opened
          cases opened
      -- The request is noted, and that is all that is left of it.
      let asked : Surroundings :=
        { e.count .runnerBegun with
          requests := e.requests.push (.live r.kind r.project, credentials)
          source := (e.source.openWatch (.live r.kind r.project) credentials).2 }
      refine ⟨(r.finish o asked .openFailed none).2.2.1, ?_, fun w other => ?_⟩
      · have answer : ((e.count .runnerBegun).source.openWatch (.live r.kind r.project)
            credentials).1 = .refused refusal := refused
        simp only [step, spawned, openWatch, answer, Bool.false_eq_true, if_false]
        rfl
      · rw [stream?_finish other, Surroundings.stream?, same, Surroundings.stream?]
    · cases fails
    · cases fails
    · cases fails
  · next own waits =>
    have held : r.watch? = some own := by simp [watch?, waits]
    let read : Surroundings := { e with source := (e.source.read e.now own).2 }
    -- What is read and then let go is its own watch.
    have spared (reason : RunnerEnd) (w : Nat) (other : r.watch? ≠ some w) :
        (r.finish o read reason none).2.2.1.stream? w = e.stream? w := by
      rw [stream?_finish other]
      refine Surroundings.stream?_read fun same => other ?_
      rw [held, same]
    split at fails
    · next failed =>
      cases fails
      refine ⟨_, ?_, spared .streamFailed⟩
      simp only [step, waits, consume, failed, Bool.false_eq_true, if_false]
      rfl
    · next ended =>
      cases fails
      refine ⟨_, ?_, spared .streamEnded⟩
      simp only [step, waits, consume, ended, Bool.false_eq_true, if_false]
      rfl
    all_goals cases fails
  all_goals cases fails

/-- A runner that lets its watch go is given no number. -/
theorem nextWatch_letGo (r : Runner) (e : Surroundings) : (r.letGo e).nextWatch = e.nextWatch := by
  -- Closing a watch gives no number.
  unfold letGo
  split
  · exact Surroundings.nextWatch_close
  · rfl

theorem nextWatch_finish (r : Runner) (o : Outlet) (e : Surroundings) (reason : RunnerEnd)
    (failure : Option SessionFailure) :
    (r.finish o e reason failure).2.2.1.nextWatch = e.nextWatch := by
  -- Finishing lets go of the watch at most.
  unfold finish
  dsimp only
  split <;> exact r.nextWatch_letGo e

/-- A runner that is stopped from outside is given no number. -/
theorem nextWatch_abort (r : Runner) (o : Outlet) (e : Surroundings) :
    (r.abort o e).2.2.nextWatch = e.nextWatch := by
  -- A runner that is stopped lets go of its watch, and one that has ended does nothing.
  unfold abort
  split
  · dsimp only
    split <;> exact r.nextWatch_letGo e
  · rfl

/-- Whether a runner has the watch it had, or none, or one with the next number, which is then
given. -/
def Gives (r r' : Runner) (e e' : Surroundings) : Prop :=
  e.nextWatch ≤ e'.nextWatch ∧
    ∀ w, r'.watch? = some w → r.watch? = some w ∨ w = e.nextWatch ∧ w < e'.nextWatch

/-- A runner that keeps its watch or lets it go is given no number. -/
theorem Gives.same (next : e'.nextWatch = e.nextWatch)
    (held : r'.watch? = none ∨ r'.watch? = r.watch?) : Gives r r' e e' := by
  -- Nothing was opened, so what is held was held before.
  refine ⟨Nat.le_of_eq next.symm, fun w holds => .inl ?_⟩
  rcases held with gone | same
  · rw [gone] at holds
    cases holds
  · exact same.symm.trans holds

/-- A runner that asks for its watch is given the next number, or none. -/
theorem gives_openWatch (opens : r.openWatch o e credentials = (r', o', e', failure)) :
    Gives r r' e e' := by
  have gives := e.source.openWatch_gives (.live r.kind r.project) credentials
  simp only [openWatch] at opens
  generalize e.source.openWatch (.live r.kind r.project) credentials = answer at gives opens
  obtain ⟨answer, source⟩ := answer
  cases answer with
  | opened w =>
    cases opens
    rcases gives with ⟨never, -⟩ | ⟨given, next⟩
    · exact absurd rfl (never w)
    · cases given
      -- The number is given, so the next one is beyond it.
      have later : e.nextWatch < source.backend.nextWatch :=
        Nat.lt_of_lt_of_eq (Nat.lt_succ_self _) next.symm
      refine ⟨Nat.le_of_lt later, fun w holds => .inr ?_⟩
      obtain rfl := Option.some.inj holds
      exact ⟨rfl, later⟩
  | refused f =>
    -- A refused watch gets no number.
    have same : source.backend = e.source.backend := by simpa using gives
    cases opens
    exact .same ((r.nextWatch_finish o _ .openFailed none).trans (congrArg Backend.nextWatch same))
      (.inl rfl)
  | never =>
    have same : source.backend = e.source.backend := by simpa using gives
    cases opens
    exact .same (congrArg Backend.nextWatch same) (.inl rfl)
  | crash =>
    have same : source.backend = e.source.backend := by simpa using gives
    cases opens
    exact .same ((r.nextWatch_letGo _).trans (congrArg Backend.nextWatch same)) (.inl rfl)

/-- Each step leaves a runner its watch, or takes it, or gives it one with the next number. -/
theorem Steps.gives (moved : r.Steps o e credentials stopped (r', o', e', failure)) :
    Gives r r' e e' := by
  generalize whole : (r', o', e', failure) = change at moved
  cases moved with
  | toldFirst _ _ =>
    cases whole
    exact .same (r.nextWatch_finish o (e.count .runnerBegun) .cancelled none) (.inl rfl)
  | opened _ _ => exact gives_openWatch (e := e.count .runnerBegun) whole.symm
  | told _ _ =>
    cases whole
    exact .same (r.nextWatch_finish o e .cancelled none) (.inl rfl)
  | @consumed own _ waits _ consumes =>
    subst whole
    -- Whatever the reading brings, no number is given for it.
    have read : Surroundings.nextWatch { e with source := (e.source.read e.now own).2 } =
      e.nextWatch := Surroundings.nextWatch_read
    unfold consume at consumes
    split at consumes
    · split at consumes <;> cases consumes
      · exact .same read (.inr rfl)
      · exact .same read (.inr (by simp [watch?, waits]))
    · cases consumes
      exact .same ((r.nextWatch_finish o _ .streamFailed none).trans read) (.inl rfl)
    · cases consumes
      exact .same ((r.nextWatch_finish o _ .streamEnded none).trans read) (.inl rfl)
    · cases consumes
      exact .same ((r.nextWatch_letGo _).trans read) (.inl rfl)
    · cases consumes
      exact .same read (.inr rfl)
    · cases consumes
  | wrote forwards _ =>
    cases whole
    exact .same rfl (.inr (by simp [watch?, forwards]))
  | forwarded forwards _ =>
    cases whole
    exact .same rfl (.inr (by simp [watch?, forwards]))
  | failed _ _ =>
    cases whole
    exact .same (r.nextWatch_finish o' e .sinkClosed failure) (.inl rfl)

end Runner

namespace Session

variable {s s' s₀ : Session} {e e' e₀ : Surroundings} {past : List Occasion} {m : Move}
  {kind : ResourceKind}

/-! ### The watches of different runners -/

/-- Whether no number of a watch is given again through what changes outside. -/
def Occasion.KeepsNumbers (o : Occasion) : Prop :=
  ∀ env, o.move = .outside env → o.env.nextWatch ≤ env.nextWatch

/-- No move gives the number of a watch again. -/
theorem Moves.nextWatch_le (numbered : s.Numbered) (moved : s.Moves e m s' e')
    (keeps : Occasion.KeepsNumbers ⟨s, e, m⟩) : e.nextWatch ≤ e'.nextWatch := by
  cases moved with
  | looped steps =>
    cases steps.oversees with
    | kept _ source => rw [Surroundings.nextWatch, ← source, Surroundings.nextWatch]
    | started _ _ _ source => rw [Surroundings.nextWatch, ← source, Surroundings.nextWatch]
    | aborted _ env =>
      subst env
      -- Runners that are stopped only let their watches go.
      refine abortRunners_keeps (P := fun _ x => e.nextWatch ≤ x.nextWatch) numbered
        (Nat.le_refl _) ?_
      intro t x r _ held
      exact Nat.le_trans held (Nat.le_of_eq (r.nextWatch_abort t.outlet x).symm)
  | ran _ steps => exact steps.gives.1
  | closed steps => cases steps <;> exact Nat.le_refl _
  | @shared hub action backend _ =>
    rw [Surroundings.nextWatch, backend]
    exact (hub.act_acts .registry action).frame.2
  | passed => exact keeps _ rfl
  | _ => exact Nat.le_refl _

/-- Whether each watch that is held has a number that was given, and is held by one runner. -/
structure Apart (s : Session) (e : Surroundings) : Prop where
  known : ∀ id w, s.watchOf id = some w → w < e.nextWatch
  alone : ∀ id other w, s.watchOf id = some w → s.watchOf other = some w → id = other

/-- A watch that is held after a move was held before, or is given in the move to the runner that
steps. -/
theorem Accounts.watch (accounts : Accounts s e m s' e') {id w : Nat}
    (holds : s'.watchOf id = some w) : s.watchOf id = some w ∨
      m = .task (.runner id) ∧ w = e.nextWatch ∧ w < e'.nextWatch := by
  obtain ⟨r', there, own⟩ := Option.bind_eq_some_iff.mp holds
  -- A runner that is new holds no watch, and only its own step gives one to another.
  rcases accounts id r' there with ⟨-, spawned, -⟩ | ⟨r, found, fate⟩
  · simp [Runner.watch?, spawned] at own
  · rw [watchOf_eq found]
    cases fate with
    | stepped task steps _ => exact (steps.gives.2 w own).imp_right fun given => ⟨task, given⟩
    | kept _ same _ =>
      refine .inl ?_
      rw [← own, Runner.watch?, Runner.watch?, Runner.phase_of_core same]
    | stopped _ _ same _ =>
      rw [same] at own
      cases own

/-- In any run in which the outside gives no number again, each watch is held by one runner. -/
theorem Run.apart (begins : Begins s₀) (run : Run s₀ e₀ past s e)
    (keeps : ∀ o ∈ past, o.KeepsNumbers) : s.Apart e := by
  refine run.keeps_along (P := fun past s e => (∀ o ∈ past, o.KeepsNumbers) → s.Apart e)
    (fun _ => ?_) ?_ keeps
  -- The induction is on the run; at its start no watch is held.
  · have none (id : Nat) : s₀.watchOf id = none := by simp [watchOf, begins.runners]
    exact ⟨by simp [none], by simp [none]⟩
  · intro past s s' e e' m run moved ih keeps
    have apart := ih fun o member => keeps o (List.mem_append_left _ member)
    have grows := (move_moves moved).nextWatch_le (run.sound begins).numbered
      (keeps _ (List.mem_append_right _ (List.mem_singleton.mpr rfl)))
    have accounts := run.accounts begins moved
    refine ⟨fun id w holds => ?_, fun id other w holds holds' => ?_⟩
    · rcases accounts.watch holds with before | ⟨-, -, given⟩
      · exact Nat.lt_of_lt_of_le (apart.known id w before) grows
      · exact given
    · -- A watch that is new is none of those that were held before.
      rcases accounts.watch holds with before | ⟨own, new, -⟩ <;>
        rcases accounts.watch holds' with before' | ⟨own', new', -⟩
      · exact apart.alone id other w before before'
      · exact absurd (apart.known id w before) (by omega)
      · exact absurd (apart.known other w before') (by omega)
      · cases own.symm.trans own'
        rfl

/-! ### The end of a runner, and what is taken note of it -/

/-- A runner that is stopped by its backend changes nothing in its session but its own phase, and
leaves the watches of the others alone. -/
theorem exits_alone {id : Nat} {r : Runner} (found : s.runners[id]? = some r)
    (untold : s.isTold r = false) {reason : RunnerEnd}
    (fails : r.failing? e s.credentials = some reason) :
    ∃ e', s.move e (.task (.runner id)) =
        some ({ s with runners := s.runners.set id { r with phase := .finished reason } }, e') ∧
      ∀ w, r.watch? ≠ some w → e'.stream? w = e.stream? w := by
  -- The session takes over from the step the runner, the write side and a failure to report, and
  -- the
  -- latter two are what they were.
  obtain ⟨e', stepped, spared⟩ := r.step_of_failing fails s.outlet
  refine ⟨e', ?_, spared⟩
  have untold : (r.cancelled || s.cancelled) = false := untold
  simp only [Session.move, step, found, untold, stepped]
  rfl

/-- The runner whose end the event loop takes note of in its next step, if nothing else comes
first. -/
def reaps? (s : Session) : Option Runner :=
  if s.loop = .selecting ∧ s.cancelled = false ∧ s.alarms.queue = [] ∧
    s.receiver.queue = [] ∧
    s.receiver.isRunning = true then s.stopped? else none

/-- Taking note of the end of a runner changes nothing in the session but that and the records,
where each goes whose own runner has stopped. -/
theorem reaps_alone {r : Runner} (reaps : s.reaps? = some r) :
    r.isRunning = false ∧ ∃ active, s.move e (.task .eventLoop) =
        some ({ s with
          active, runners := s.runners.modify r.id fun r => { r with joined := true } }, e) ∧
      ∀ kind, active.get kind = (s.active.get kind).filter s.runs := by
  unfold reaps? at reaps
  split at reaps
  · next ready =>
    obtain ⟨selects, untold, calm, empty, receives⟩ := ready
    have stopped : r.isRunning = false := by
      have stopped := List.find?_some reaps
      simp only [Bool.and_eq_true, Bool.not_eq_true'] at stopped
      exact stopped.1
    -- Who runs is not a matter of what is taken note of.
    have same : (s.modifyRunner r.id fun r => { r with joined := true }).runs = s.runs := by
      funext id
      simp only [Session.runs, modifyRunner, List.getElem?_modify]
      split
      · cases s.runners[id]? <;> rfl
      · simp
    have moved : s.stepLoop e = some (s.reap r, e) := by
      simp [stepLoop, selects, untold, calm, Receiver.take?, empty, receives, reaps]
    refine ⟨stopped, (s.reap r).active, moved, fun kind => ?_⟩
    cases kind <;> simp only [reap, retainRunning, PerKind.get, same] <;> rfl
  · cases reaps

/-- What stops a runner by its backend is told to nobody.

The runner leaves all of its session as it is but itself, and the watches of the others besides.

Taking note of its end leaves all but the records, of which each goes just if its own runner has
stopped.

In a run in which no write fails, nothing else on the connection depends on a kind.
The same can be done from outside at the same times while no watch of the kind is ever opened.
Then the same happens on the connection but for the notifications of the kind. -/
theorem kinds_are_isolated (begins : Begins s₀) (run : Run s₀ e₀ past s e) :
    (∀ id r reason, s.runners[id]? = some r → s.isTold r = false →
      r.failing? e s.credentials = some reason → ∃ e',
        s.move e (.task (.runner id)) =
          some ({ s with runners := s.runners.set id { r with phase := .finished reason } }, e') ∧
        ((∀ o ∈ past, o.KeepsNumbers) → ∀ other w, other ≠ id →
          s.watchOf other = some w →
          e'.stream? w = e.stream? w)) ∧
    (∀ r, s.reaps? = some r → r.isRunning = false ∧ ∃ active,
      s.move e (.task .eventLoop) =
        some ({ s with
          active, runners := s.runners.modify r.id fun r => { r with joined := true } }, e) ∧
      ∀ kind, (s.active.get kind = none → active.get kind = none) ∧
        ∀ id, s.active.get kind = some id → ∃ q, s.runners[id]? = some q ∧ q.kind = kind ∧
          active.get kind = if q.isRunning then some id else none) ∧
    ((∀ o ∈ past, o.failsWrite = false) → ∀ kind, ∃ past' s',
      Run s₀ (e₀.hushed kind) past' s' (e.hushed kind) ∧
      (∀ o ∈ past', o.IsSilent kind ∧ o.Retraces kind (MetIn past e)) ∧
      past'.filterMap Occasion.input? = past.filterMap Occasion.input? ∧
      (∃ outlet loop active runners, s' = { s with outlet, loop, active, runners }) ∧
      s'.outlet.story = s.outlet.story.filter fun x => !x.notifies kind) := by
  refine ⟨fun id r reason found untold fails => ?_, fun r reaps => ?_, fun holds kind => ?_⟩
  · obtain ⟨e', moved, spared⟩ := exits_alone found untold fails
    refine ⟨e', moved, fun keeps other w differ holds => spared w fun own => differ ?_⟩
    -- The other runner holds another watch.
    exact (run.apart begins keeps).alone other id w holds ((watchOf_eq found).trans own)
  · obtain ⟨stopped, active, moved, stays⟩ := reaps_alone reaps (e := e)
    refine ⟨stopped, active, moved, fun kind => ⟨fun none => ?_, fun id recorded => ?_⟩⟩
    · rw [stays, none]
      rfl
    · obtain ⟨q, found, own, -⟩ := (run.recorded begins).entry kind id recorded
      refine ⟨q, found, own, ?_⟩
      rw [stays, recorded, Option.filter_some, runs_eq found]
  · obtain ⟨s', names, ⟨past', run', silent, inputs⟩, mutes⟩ :=
      run.silenced begins holds kind
    exact ⟨past', s', run', silent, inputs, mutes.rest, mutes.outlet.story⟩

/-- Of three kinds one falls behind and one is refused; the third is reported as if they were not
there. -/
theorem kinds_are_isolated_lagging :
    let named (name : String) : Json := .object [("name", .string name)]
    let source := (Source.of (.catalog (.empty 1 false))).setOpening .artifact
      (.refuse (.unavailable "gone"))
    let subscribed (kind : ResourceKind) : LogEntry :=
      ⟨0, .frame (.message (.subscribed (.known kind))) .eventLoop⟩
    let created (kind : ResourceKind) (name : String) : LogEntry :=
      ⟨0, .frame (.message ⟨.created, .known kind, "p", some (named name)⟩) (.runner 0)⟩
    ∃ past s e r e' r' past' s',
      Run (.start {} default .clear 0 false) (.start source) past s e ∧
      s.runners[0]? = some r ∧ s.move e (.task (.runner 0)) =
        some ({ s with runners := s.runners.set 0 { r with phase := .finished .streamFailed } },
          e') ∧
      s.watchOf 1 = some 1 ∧ e'.stream? 1 = e.stream? 1 ∧
      s.reaps? = some r' ∧ r'.isRunning = false ∧
      s.outlet.story = [subscribed .application, subscribed .registry, subscribed .artifact,
        created .application "a", created .registry "b"] ∧
      Run (.start {} default .clear 0 false) (Surroundings.hushed (.start source) .application)
        past' s' (e.hushed .application) ∧
      s'.outlet.story = [subscribed .application, subscribed .registry, subscribed .artifact,
        created .registry "b"] := by
  intro named source subscribed created
  let asks (kind : String) : InFrame := .text
    ("\x7b\"op\":\"subscribe\",\"kind\":\"" ++ kind ++ "\",\"project\":\"p\"\x7d")
  let reads : List Move := [.task .receiver, .task .receiver]
  let answers : List Move := List.replicate 4 (.task .eventLoop)
  let change (kind : ResourceKind) (name : String) : Move :=
    .catalog (.upsert kind "p" (named name))
  let moves : List Move :=
    [.arrive (asks "Application"), .arrive (asks "Registry"), .arrive (asks "Artifact")] ++
      reads ++ reads ++ reads ++ answers ++ answers ++ answers ++
      [.task (.runner 0), .task (.runner 1), .task (.runner 2), change .application "a"] ++
      List.replicate 4 (.task (.runner 0)) ++
      [change .application "c", change .application "d", change .application "e",
        change .registry "b"] ++
      List.replicate 4 (.task (.runner 1))
  -- One kind is reported once before it falls behind, and another one is refused by then.
  let story := [subscribed .application, subscribed .registry, subscribed .artifact,
    created .application "a", created .registry "b"]
  have plays : ((play (.start {} default .clear 0 false) (.start source) moves).any fun p =>
      p.2.1.runners[0]?.any (fun r => !p.2.1.isTold r &&
        decide (r.failing? p.2.2 p.2.1.credentials = some .streamFailed)) &&
      decide (p.2.1.watchOf 1 = some 1) && p.2.1.reaps?.isSome &&
      decide (p.2.1.outlet.story = story) && p.1.all fun o => !o.failsWrite) = true := by
    decide +kernel
  -- The play tells what the theorem asks of its session.
  obtain ⟨⟨past, s, e⟩, played, checked⟩ := (Option.any_eq_true _ _).mp plays
  simp only [Bool.and_eq_true, decide_eq_true_eq, List.all_eq_true, Bool.not_eq_true'] at checked
  obtain ⟨⟨⟨⟨fails, watches⟩, reaps⟩, told⟩, holds⟩ := checked
  obtain ⟨r, found, fails⟩ := (Option.any_eq_true _ _).mp fails
  simp only [Bool.and_eq_true, decide_eq_true_eq, Bool.not_eq_true'] at fails
  obtain ⟨r', reaps⟩ := Option.isSome_iff_exists.mp reaps
  have run := Run.of_play played
  -- None of the moves changes the surroundings in any other way.
  have keeps : ∀ o ∈ past, o.KeepsNumbers := by
    intro o member env same
    have made := List.mem_map_of_mem (f := Occasion.move) member
    rw [Run.moves_of_play played, same] at made
    simp [moves, reads, answers, change] at made
  have isolated := kinds_are_isolated (.attended _ _ _ _ _) run
  obtain ⟨e', moved, spared⟩ := isolated.1 0 r .streamFailed found fails.1 fails.2
  obtain ⟨stopped, -⟩ := isolated.2.1 r' reaps
  obtain ⟨past', s', run', -, -, -, erased⟩ := isolated.2.2 holds .application
  -- The watch of the other kind is number one, and the erased story is that of the muted run.
  refine ⟨past, s, e, r, e', r', past', s', run, found, moved, watches,
    spared keeps 1 1 (by decide) watches, reaps, stopped, told, run', ?_⟩
  rw [erased, told]
  decide

/-- Noting the end of a runner is a matter of every kind whose runner has stopped, not of its own.

Of two kinds that the backend refuses, both are forgotten when the end of the first is noted.

A kind that was subscribed to again is not forgotten when the end of its first runner is noted. -/
theorem reaping_forgets_other_kinds :
    let source := ((Source.of (.catalog (.empty 1 false))).setOpening .application
      (.refuse (.unavailable "gone"))).setOpening .registry (.refuse (.unavailable "gone"))
    (∃ past s e r s',
      Run (.start {} default .clear 0 false) (.start source) past s e ∧
      s.reaps? = some r ∧ r.kind = .application ∧ s.active.get .registry = some 1 ∧
      s.move e (.task .eventLoop) = some (s', e) ∧ s'.active.get .registry = none) ∧
    ∃ past s e r s',
      Run (.start {} default .clear 0 false) (.start source) past s e ∧
      s.reaps? = some r ∧ r.kind = .application ∧ r.id = 0 ∧
      s.active.get .application = some 1 ∧
      s.move e (.task .eventLoop) = some (s', e) ∧ s'.active.get .application = some 1 := by
  -- Two kinds whose runners are refused, and one kind that is subscribed to again.
  intro source
  let asks (kind : String) : InFrame := .text
    ("\x7b\"op\":\"subscribe\",\"kind\":\"" ++ kind ++ "\",\"project\":\"p\"\x7d")
  let subscribes (kind : String) : List Move :=
    [.arrive (asks kind), .task .receiver, .task .receiver] ++
      List.replicate 4 (.task .eventLoop)
  let both := subscribes "Application" ++ subscribes "Registry" ++
    [.task (.runner 0), .task (.runner 1)]
  let again := subscribes "Application" ++ [.task (.runner 0)] ++ subscribes "Application"
  refine ⟨?_, ?_⟩
  · -- Both runners were refused before the loop comes to either of them.
    have plays : ((play (.start {} default .clear 0 false) (.start source) both).any fun p =>
        p.2.1.reaps?.any (fun r => decide (r.kind = .application)) &&
        decide (p.2.1.active.get .registry = some 1) && !p.2.1.runs 1) = true := by
      decide +kernel
    obtain ⟨⟨past, s, e⟩, played, checked⟩ := (Option.any_eq_true _ _).mp plays
    simp only [Bool.and_eq_true, decide_eq_true_eq, Bool.not_eq_true'] at checked
    obtain ⟨⟨reaps, recorded⟩, stopped⟩ := checked
    obtain ⟨r, reaps, own⟩ := (Option.any_eq_true _ _).mp reaps
    -- What the loop drops then are the records of all that have stopped.
    obtain ⟨-, active, moved, stays⟩ := reaps_alone reaps (e := e)
    refine ⟨past, s, e, r, _, .of_play played, reaps, of_decide_eq_true own, recorded,
      moved, ?_⟩
    simp [stays, recorded, stopped]
  · -- The second subscription is taken before the end of the first runner is noted.
    have plays : ((play (.start {} default .clear 0 false) (.start source) again).any fun p =>
        p.2.1.reaps?.any (fun r => decide (r.kind = .application) && decide (r.id = 0)) &&
        decide (p.2.1.active.get .application = some 1) && p.2.1.runs 1) = true := by
      decide +kernel
    obtain ⟨⟨past, s, e⟩, played, checked⟩ := (Option.any_eq_true _ _).mp plays
    simp only [Bool.and_eq_true, decide_eq_true_eq] at checked
    obtain ⟨⟨reaps, recorded⟩, running⟩ := checked
    obtain ⟨r, reaps, own⟩ := (Option.any_eq_true _ _).mp reaps
    simp only [Bool.and_eq_true, decide_eq_true_eq] at own
    -- The entry is that of the second runner, which runs.
    obtain ⟨-, active, moved, stays⟩ := reaps_alone reaps (e := e)
    refine ⟨past, s, e, r, _, .of_play played, reaps, own.1, own.2, recorded, moved, ?_⟩
    simp [stays, recorded, running]

end Session

end WatchRelay
