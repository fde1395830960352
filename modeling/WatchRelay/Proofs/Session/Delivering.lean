import WatchRelay.Proofs.Session.Taking
import WatchRelay.Proofs.Session.Tallies
import WatchRelay.Proofs.Trace

/-! What one runner does from its start to its end, whatever its backend yields and however the
connection behaves: which frames it puts there, why it stops, and what it is counted by. A backend
that takes its time to open a watch is one whose runner takes its first step late. -/

namespace WatchRelay

namespace Reading

/-- The item of the stream that a reading brings; that there is none yet is no item. -/
def item? : Reading → Option Reading
  | .passed | .pending => none
  | item => some item

/-- Whether an item ends its stream for the one who reads it. -/
def isLast : Reading → Bool
  | .failure _ | .ended | .crash => true
  | .event _ | .passed | .pending => false

/-- The events of a stream that come before its first error or end. -/
def eventsOf (stream : List Reading) : List Event :=
  (stream.takeWhile fun item => !item.isLast).filterMap event?

/-- The event of a reading is the one of its item. -/
theorem bind_item (reading : Reading) : reading.item?.bind event? = reading.event? := by
  cases reading <;> rfl

/-- An item that ends its stream is no event. -/
theorem event?_of_isLast {item : Reading} (last : item.isLast = true) : item.event? = none := by
  cases item <;> first | rfl | cases last

end Reading

namespace Runner

variable {r r' : Runner} {o o' : Outlet} {e e' : Surroundings} {credentials : Credentials}
  {stopped : Bool} {f : Option SessionFailure}

/-- The item that the next step of a runner reads from its watch, if it reads one. -/
def reads? (r : Runner) (e : Surroundings) (stopped : Bool) : Option Reading :=
  match r.phase with
  | .streaming w => if stopped then none else (e.source.read e.now w).1.item?
  | .spawned | .opening | .forwarding _ _ _ | .finished _ | .crashed | .aborted => none

/-- The event a runner takes is the item it reads. -/
theorem takes?_eq (r : Runner) (e : Surroundings) (stopped : Bool) :
    r.takes? e stopped = (r.reads? e stopped).bind Reading.event? := by
  -- Only a runner that waits for its watch reads, and only if it is not told to end.
  simp only [takes?, reads?]
  cases r.phase with
  | streaming w =>
    cases stopped with
    | true => rfl
    | false => exact (Reading.bind_item _).symm
  | _ => rfl

/-- A runner that does not wait for its watch reads nothing from it. -/
theorem reads?_of_ne (other : ∀ w, r.phase ≠ .streaming w) : r.reads? e stopped = none := by
  -- The readings are made in no other phase.
  unfold reads?
  split
  · next w waits => exact absurd waits (other w)
  all_goals rfl

/-- Where a step takes a runner, by the item it reads and by how the write ends that it ends. -/
inductive Leg (r r' : Runner) (o o' : Outlet) (stopped : Bool) :
    Option Reading → Option Bool → Prop where
  | told (told : stopped = true) (phase : r'.phase = .finished .cancelled) :
      Leg r r' o o' stopped none none
  | opened (spawned : r.phase = .spawned)
      (phase : r'.phase = .opening ∨ r'.phase = .finished .openFailed ∨ r'.phase = .crashed ∨
        r'.watch?.isSome = true) : Leg r r' o o' stopped none none
  | goesOn (holds : r'.watch?.isSome = true) : Leg r r' o o' stopped none none
  | event (c : Event) (holds : r'.watch?.isSome = true) :
      Leg r r' o o' stopped (some (.event c)) none
  | failure (failure : WatchFailure) (phase : r'.phase = .finished .streamFailed)
      (idle : r.unsent = []) (sent : o'.sent = o.sent) :
      Leg r r' o o' stopped (some (.failure failure)) none
  | ended (phase : r'.phase = .finished .streamEnded) (idle : r.unsent = [])
      (sent : o'.sent = o.sent) : Leg r r' o o' stopped (some .ended) none
  | crash (phase : r'.phase = .crashed) : Leg r r' o o' stopped (some .crash) none
  | delivered (holds : r'.watch?.isSome = true) : Leg r r' o o' stopped none (some true)
  | broken (phase : r'.phase = .finished .sinkClosed) : Leg r r' o o' stopped none (some false)

/-- A runner that asks for its watch has it, waits for it, or stops. -/
private theorem openWatch_phase (r : Runner) (o : Outlet) (e : Surroundings)
    (credentials : Credentials) :
    let r' := (r.openWatch o e credentials).1
    r'.phase = .opening ∨ r'.phase = .finished .openFailed ∨ r'.phase = .crashed ∨
      r'.watch?.isSome = true := by
  -- However the backend answers, the runner gets a watch, waits for one or is done.
  unfold openWatch
  dsimp only
  split <;> simp [finish, crash, watch?]

/-- What a runner makes of a reading of its watch. -/
private theorem consume_leg {w : Nat} {reading : Reading} (waits : r.phase = .streaming w)
    (consumes : r.consume o e w reading = some (r', o', e', f)) :
    Leg r r' o o' stopped reading.item? none := by
  -- Nothing is left to be sent while the runner waits, so what it reads is all that is new.
  have idle : r.unsent = [] := by simp [unsent, waits]
  have holds : r.watch?.isSome = true := by simp [watch?, waits]
  unfold consume at consumes
  split at consumes
  · next c =>
    split at consumes <;> cases consumes
    · exact .event c holds
    · exact .event c rfl
  · cases consumes; exact .failure _ rfl idle rfl
  · cases consumes; exact .ended rfl idle rfl
  · cases consumes; exact .crash rfl
  · cases consumes; exact .goesOn holds
  · cases consumes

/-- Where every step takes a runner. -/
theorem Steps.leg (moved : r.Steps o e credentials stopped (r', o', e', f)) :
    Leg r r' o o' stopped (r.reads? e stopped) (r.outcome? o e.now) := by
  generalize whole : (r', o', e', f) = change at moved
  -- Only a runner that waits for its watch reads, and only one that forwards ends a write.
  cases moved with
  | toldFirst spawned told =>
    cases whole
    rw [reads?_of_ne (by simp [spawned]),
      show r.outcome? o e.now = none by simp [outcome?, spawned]]
    exact .told told rfl
  | opened spawned _ =>
    have phase := openWatch_phase r o (e.count .runnerBegun) credentials
    rw [← whole] at phase
    rw [reads?_of_ne (by simp [spawned]),
      show r.outcome? o e.now = none by simp [outcome?, spawned]]
    exact .opened spawned phase
  | told waits told =>
    cases whole
    -- Telling it ends it before it reads.
    have silent : r.reads? e stopped = none ∧ r.outcome? o e.now = none := by
      rcases waits with waits | ⟨_, waits⟩ <;> simp [reads?, outcome?, waits, told]
    rw [silent.1, silent.2]
    exact .told told rfl
  | consumed waits untold consumes =>
    -- What the item does is told by what is read.
    subst whole
    have leg : Leg r r' o o' stopped (e.source.read e.now _).1.item? none :=
      consume_leg waits consumes
    simpa [reads?, outcome?, waits, untold] using leg
  | wrote forwards writes =>
    cases whole
    rw [reads?_of_ne (by simp [forwards]),
      show r.outcome? o e.now = none by simp [outcome?, forwards, writes]]
    exact .goesOn rfl
  | forwarded forwards writes =>
    cases whole
    rw [reads?_of_ne (by simp [forwards]),
      show r.outcome? o e.now = some true by simp [outcome?, forwards, writes]]
    exact .delivered rfl
  | failed forwards writes =>
    cases whole
    rw [reads?_of_ne (by simp [forwards]),
      show r.outcome? o e.now = some false by simp [outcome?, forwards, writes]]
    exact .broken rfl

/-- A runner that holds a watch runs, and is past its opening. -/
theorem phase_of_holds (holds : r.watch?.isSome = true) :
    r.isRunning = true ∧ r.phase ≠ .spawned ∧ r.phase ≠ .opening ∧
      ∀ reason, r.phase ≠ .finished reason := by
  cases phase : r.phase <;> simp_all [watch?, isRunning]

end Runner

namespace Session

variable {s s' s₀ : Session} {e e' e₀ : Surroundings} {past : List Occasion}

namespace Occasion

/-- The runner with a number, where it takes a step. -/
def own? (id : Nat) (o : Occasion) : Option Runner :=
  match o.move with
  | .task (.runner own) => if own = id then o.session.runners[id]? else none
  | _ => none

/-- The item a runner reads from its watch. -/
def reading? (id : Nat) (o : Occasion) : Option Reading :=
  (o.own? id).bind fun r => r.reads? o.env (o.session.isTold r)

/-- Whether a write of a runner succeeds that ends. -/
def outcome? (id : Nat) (o : Occasion) : Option Bool :=
  (o.own? id).bind fun r => r.outcome? o.session.outlet o.env.now

/-- By how much a count grows while a runner takes a step. -/
def growth? (id : Nat) (count : Metrics → Nat) (o : Occasion) : Option Int :=
  (o.own? id).bind fun _ => (o.session.move o.env o.move).map fun after =>
    (count after.2.metrics : Int) - count o.env.metrics

end Occasion

/-- The items a runner has read from its watch, in order. -/
def readings (id : Nat) (past : List Occasion) : List Reading :=
  past.filterMap (Occasion.reading? id)

/-- Whether the writes of a runner succeeded, one after the other. -/
def outcomes (id : Nat) (past : List Occasion) : List Bool := past.filterMap (Occasion.outcome? id)

/-- By how much a count has grown in the steps of a runner. -/
def growth (id : Nat) (count : Metrics → Nat) (past : List Occasion) : Int :=
  (past.filterMap (Occasion.growth? id count)).foldl (· + ·) 0

/-- A runner takes steps of its own only. -/
theorem own?_other {m : Move} {id : Nat} (other : m ≠ .task (.runner id)) :
    Occasion.own? id ⟨s, e, m⟩ = none := by
  -- The runner's own occasions are those of its task.
  unfold Occasion.own?
  split
  · next own same =>
    refine if_neg fun number => other ?_
    rw [← number]
    exact same
  · rfl

/-- In its own step it is the runner there. -/
theorem own?_own {id : Nat} {r : Runner} (found : s.runners[id]? = some r) :
    Occasion.own? id ⟨s, e, .task (.runner id)⟩ = some r := by
  simp [Occasion.own?, found]

/-- The events a runner has taken are those among the items it has read. -/
theorem events_eq (id : Nat) (past : List Occasion) :
    events id past = (readings id past).filterMap Reading.event? := by
  -- The two tell the same of every single step.
  rw [events, readings, List.filterMap_filterMap]
  refine congrArg (fun f => List.filterMap f past) (funext fun o => ?_)
  have own : Occasion.event? id o =
      (o.own? id).bind fun r => r.takes? o.env (o.session.isTold r) := by
    obtain ⟨session, env, move⟩ := o
    cases move with
    | task t =>
      cases t with
      | runner own =>
        simp only [Occasion.event?, Occasion.own?]
        split <;> rfl
      | _ => rfl
    | _ => rfl
  rw [own, Occasion.reading?, Option.bind_assoc]
  exact congrArg _ (funext fun r => r.takes?_eq o.env (o.session.isTold r))

/-- How far a runner has come: what it has read, why it stopped, and what it is counted by. -/
structure Passage (past : List Occasion) (s : Session) (id : Nat) (r : Runner) : Prop where
  before : ∀ item ∈ (readings id past).dropLast, item.isLast = false
  going : r.isRunning = true → ∀ item ∈ readings id past, item.isLast = false
  unread : r.phase = .spawned ∨ r.phase = .opening ∨ r.phase = .finished .openFailed →
    readings id past = []
  ended : r.phase = .finished .streamEnded ↔ .ended ∈ readings id past
  failed : r.phase = .finished .streamFailed ↔ ∃ f, .failure f ∈ readings id past
  whole : r.phase = .finished .streamEnded ∨ r.phase = .finished .streamFailed →
    s.framesOf id = Event.frames r.kind (events id past)
  told : r.phase = .finished .cancelled → s.isTold r = true
  broken : r.phase = .finished .sinkClosed ↔ false ∈ outcomes id past
  forwarded : ∀ k, growth id (·.forwarded.get k) past =
    if r.kind = k then ((outcomes id past).count true : Int) else 0
  blamed : ∀ k, growth id (·.runnerFailures.get k) past = r.failures k

namespace Passage

variable {id : Nat} {r r' : Runner}

/-- Where its number takes no step, a runner comes no further; at most it is told to stop, or is
stopped from outside. -/
private theorem rests {m : Move} (passage : Passage past s id r) (other : m ≠ .task (.runner id))
    (scope : r'.kind = r.kind) (frames : s'.framesOf id = s.framesOf id)
    (told : s.isTold r = true → s'.isTold r' = true)
    (phase : r'.phase = r.phase ∨ r.isRunning = true ∧ r'.phase = .aborted) :
    Passage (past ++ [⟨s, e, m⟩]) s' id r' := by
  -- Nothing is added to what it has read and written, nor to what it is counted by.
  have own := own?_other (s := s) (e := e) other
  have read : readings id (past ++ [⟨s, e, m⟩]) = readings id past := by
    rw [readings, Run.filterMap_concat, Occasion.reading?, own]
    exact List.append_nil _
  have wrote : outcomes id (past ++ [⟨s, e, m⟩]) = outcomes id past := by
    rw [outcomes, Run.filterMap_concat, Occasion.outcome?, own]
    exact List.append_nil _
  have grown (count : Metrics → Nat) :
      growth id count (past ++ [⟨s, e, m⟩]) = growth id count past := by
    rw [growth, Run.filterMap_concat, Occasion.growth?, own]
    exact congrArg (List.foldl (· + ·) (0 : Int)) (List.append_nil _)
  have taken : events id (past ++ [⟨s, e, m⟩]) = events id past := events_other other
  rcases phase with same | ⟨runs, aborted⟩
  · -- Where its phase is the same, so is all that is known of it.
    have sound : r'.hasFailed = r.hasFailed := by simp only [Runner.hasFailed, same]
    have failures : r'.failures = r.failures := by
      funext k
      simp only [Runner.failures, sound, scope]
    refine ⟨?_, ?_, ?_, ?_, ?_, ?_, ?_, ?_, ?_, ?_⟩
    · rw [read]; exact passage.before
    · rw [read]
      intro runs
      exact passage.going (by simpa [Runner.isRunning, same] using runs)
    · rw [read, same]; exact passage.unread
    · rw [read, same]; exact passage.ended
    · rw [read, same]; exact passage.failed
    · rw [same, frames, taken, scope]; exact passage.whole
    · rw [same]; exact fun ends => told (passage.told ends)
    · rw [same, wrote]; exact passage.broken
    · intro k; rw [grown, wrote, scope]; exact passage.forwarded k
    · intro k; rw [grown, failures]; exact passage.blamed k
  · -- A runner that is stopped from outside has read no last item.
    have going := passage.going runs
    refine ⟨?_, ?_, ?_, ?_, ?_, ?_, ?_, ?_, ?_, ?_⟩
    · rw [read]; exact passage.before
    · rw [read]; exact fun _ => going
    · simp [aborted]
    · rw [read, aborted]
      exact iff_of_false (by simp) fun among => by cases going _ among
    · rw [read, aborted]
      refine iff_of_false (by simp) ?_
      rintro ⟨f, among⟩
      cases going _ among
    · simp [aborted]
    · simp [aborted]
    · rw [wrote, ← passage.broken, aborted]
      refine iff_of_false (by simp) fun broken => ?_
      simp [Runner.isRunning, broken] at runs
    · intro k; rw [grown, wrote, scope]; exact passage.forwarded k
    · intro k
      have sound : r'.hasFailed = false := by simp [Runner.hasFailed, aborted]
      rw [grown, passage.blamed k, Runner.failures_of_not (Runner.hasFailed_of_running runs),
        Runner.failures_of_not sound]

/-- What a step of a runner adds to its past: the item it reads, how a write ends, and the
counts. -/
private structure Adds (past past' : List Occasion) (id : Nat) (item : Option Reading)
    (outcome : Option Bool) (r' : Runner) : Prop where
  read : readings id past' = readings id past ++ item.toList
  wrote : outcomes id past' = outcomes id past ++ outcome.toList
  forwarded : ∀ k, growth id (·.forwarded.get k) past' =
    if r'.kind = k then ((outcomes id past').count true : Int) else 0
  blamed : ∀ k, growth id (·.runnerFailures.get k) past' = r'.failures k

variable {past' : List Occasion} {item : Option Reading} {outcome : Option Bool}

/-- What a step of a runner adds to its past. -/
private theorem adds {f : Option SessionFailure} (passage : Passage past s id r)
    (found : s.runners[id]? = some r) (moved : s.move e (.task (.runner id)) = some (s', e'))
    (stepped : r.Steps s.outlet e s.credentials (s.isTold r) (r', s'.outlet, e', f)) :
    Adds past (past ++ [⟨s, e, .task (.runner id)⟩]) id (r.reads? e (s.isTold r))
      (r.outcome? s.outlet e.now) r' := by
  -- Each of the records grows by what this step adds to it.
  have own := own?_own (e := e) found
  have grows := stepped.grows
  have kind : r'.kind = r.kind := by
    obtain ⟨phase, rfl⟩ := stepped.phase
    rfl
  have wrote : outcomes id (past ++ [⟨s, e, .task (.runner id)⟩]) =
      outcomes id past ++ (r.outcome? s.outlet e.now).toList := by
    rw [outcomes, Run.filterMap_concat, Occasion.outcome?, own]
    rfl
  have grown (count : Metrics → Nat) :
    growth id count (past ++ [⟨s, e, .task (.runner id)⟩]) =
      growth id count past + ((count e'.metrics : Int) - count e.metrics) := by
    rw [growth, Run.filterMap_concat, Occasion.growth?, own]
    simp [moved, growth]
  refine ⟨?_, wrote, fun k => ?_, fun k => ?_⟩
  · rw [readings, Run.filterMap_concat, Occasion.reading?, own]
    rfl
  · -- A success is counted once, for the kind of the runner.
    rw [grown, passage.forwarded k, grows.forwarded k, wrote, List.count_append, kind]
    unfold Runner.deliveries
    by_cases own : r.kind = k
    · rcases r.outcome? s.outlet e.now with _ | _ | _ <;> simp [own, Int.add_comm _ 1]
    · simp [own]
  · -- Before the step it ran, so that it had not failed yet.
    rw [grown, passage.blamed k, grows.failed k,
      Runner.failures_of_not (Runner.hasFailed_of_running stepped.running)]
    push_cast
    omega

/-- A runner that runs has read no last item and has broken off no write. -/
private theorem intact (passage : Passage past s id r) (runs : r.isRunning = true) :
    -- A runner that failed in writing does not run any more.
    false ∉ outcomes id past := by
  rw [← passage.broken]
  intro broken
  simp [Runner.isRunning, broken] at runs

/-- Only what a runner reads in its step can be a last item. -/
private theorem before_step (passage : Passage past s id r) (runs : r.isRunning = true)
    (adds : Adds past past' id item outcome r') :
    ∀ item ∈ (readings id past').dropLast, item.isLast = false := by
  have going := passage.going runs
  rw [adds.read]
  -- All that was read before is no last item, and the item of the step is dropped.
  cases item with
  | none => simpa using fun x among => going x ((List.dropLast_sublist _).subset among)
  | some item => simpa using going

/-- A step in which nothing last is read and no write fails. -/
private theorem quiet (passage : Passage past s id r) (runs : r.isRunning = true)
    (adds : Adds past past' id item outcome r')
    (items : ∀ x ∈ item, x.isLast = false) (unbroken : outcome ≠ some false)
    (fresh : r'.phase = .spawned ∨ r'.phase = .opening ∨ r'.phase = .finished .openFailed →
      readings id past ++ item.toList = [])
    (phase : r'.phase ≠ .finished .streamEnded ∧ r'.phase ≠ .finished .streamFailed ∧
      r'.phase ≠ .finished .sinkClosed)
    (cancelled : r'.phase = .finished .cancelled → s'.isTold r' = true) :
    Passage past' s' id r' := by
  -- No last item is read, now or before, so the runner has not stopped for one.
  have all : ∀ x ∈ readings id past ++ item.toList, x.isLast = false := by
    simpa [or_imp, forall_and] using ⟨passage.going runs, items⟩
  refine ⟨passage.before_step runs adds, fun _ => adds.read ▸ all, adds.read ▸ fresh, ?_, ?_,
    ?_, cancelled, ?_, adds.forwarded, adds.blamed⟩
  · rw [adds.read]
    exact iff_of_false phase.1 fun among => by cases all _ among
  · rw [adds.read]
    refine iff_of_false phase.2.1 ?_
    rintro ⟨f, among⟩
    cases all _ among
  · exact fun ends => absurd ends (by simp [phase.1, phase.2.1])
  · rw [adds.wrote]
    refine iff_of_false phase.2.2 fun among => ?_
    -- No write has failed before, and none fails now.
    rcases List.mem_append.mp among with among | among
    · exact passage.intact runs among
    · exact unbroken (by simpa using among)

/-- A step behind which the runner still holds its watch. -/
private theorem holding (passage : Passage past s id r) (runs : r.isRunning = true)
    (adds : Adds past past' id item outcome r') (holds : r'.watch?.isSome = true)
    (items : ∀ x ∈ item, x.isLast = false) (unbroken : outcome ≠ some false) :
    Passage past' s' id r' := by
  -- A runner that holds a watch goes on reading, and none of the ends apply.
  obtain ⟨-, spawned, opening, finished⟩ := Runner.phase_of_holds holds
  exact passage.quiet runs adds items unbroken (by simp [spawned, opening, finished])
    (by simp [finished]) (by simp [finished])

/-- A step in which a last item is read.

It makes the runner stop, and what it has taken by then is on the connection. -/
private theorem closing {x : Reading} (passage : Passage past s id r) (runs : r.isRunning = true)
    (reporting : Reporting past s) (found : s.runners[id]? = some r) (kind : r'.kind = r.kind)
    (adds : Adds past past' id (some x) none r') (last : x.isLast = true)
    (stops : r'.isRunning = false ∧ r'.phase ≠ .finished .openFailed ∧
      r'.phase ≠ .finished .cancelled ∧ r'.phase ≠ .finished .sinkClosed)
    (ended : r'.phase = .finished .streamEnded ↔ x = .ended)
    (failed : r'.phase = .finished .streamFailed ↔ ∃ f, x = .failure f)
    (settles : r'.phase = .finished .streamEnded ∨ r'.phase = .finished .streamFailed →
      r.unsent = [] ∧ s'.outlet.sent = s.outlet.sent) : Passage past' s' id r' := by
  have going := passage.going runs
  obtain ⟨stops, refused, cancelled, broken⟩ := stops
  -- The last item is no event.
  have events : events id past' = events id past := by
    rw [events_eq, events_eq, adds.read, List.filterMap_append]
    simp [Reading.event?_of_isLast last]
  refine ⟨passage.before_step runs adds, fun runs => ?_, fun phase => ?_, ?_, ?_, fun phase => ?_,
    fun phase => ?_, ?_, adds.forwarded, adds.blamed⟩
  · rw [stops] at runs
    cases runs
  · rcases phase with phase | phase | phase
    · simp [Runner.isRunning, phase] at stops
    · simp [Runner.isRunning, phase] at stops
    · exact absurd phase refused
  · -- What ends it can only be the item of this step, for those before have not.
    rw [ended, adds.read, List.mem_append]
    refine ⟨fun same => .inr (by simp [same]), fun among => ?_⟩
    rcases among with among | among
    · cases going _ among
    · exact (List.mem_singleton.mp among).symm
  · rw [failed, adds.read]
    constructor
    · rintro ⟨f, same⟩
      exact ⟨f, by simp [same]⟩
    · rintro ⟨f, among⟩
      refine ⟨f, ?_⟩
      rcases List.mem_append.mp among with among | among
      · cases going _ among
      · exact (List.mem_singleton.mp among).symm
  · -- It has nothing unsent, so the reports of all events it has taken are on the connection.
    obtain ⟨idle, sent⟩ := settles phase
    have settled := reporting.whole id r found runs
    rw [idle, List.append_nil] at settled
    rw [events, kind, ← settled]
    exact Outlet.sentBy_of_sent sent _
  · exact absurd phase cancelled
  · rw [adds.wrote]
    exact iff_of_false broken (by simpa using passage.intact runs)

/-- A runner takes a step. -/
private theorem steps {f : Option SessionFailure} (passage : Passage past s id r)
    (reporting : Reporting past s) (found : s.runners[id]? = some r)
    (moved : s.move e (.task (.runner id)) = some (s', e'))
    (stepped : r.Steps s.outlet e s.credentials (s.isTold r) (r', s'.outlet, e', f))
    (told : s.isTold r = true → s'.isTold r' = true) :
    Passage (past ++ [⟨s, e, .task (.runner id)⟩]) s' id r' := by
  have runs := stepped.running
  have leg := stepped.leg
  have adds := passage.adds found moved stepped
  have kind : r'.kind = r.kind := by
    obtain ⟨phase, rfl⟩ := stepped.phase
    rfl
  -- From here on only what the step adds to the past matters.
  generalize past ++ [⟨s, e, .task (.runner id)⟩] = past' at adds
  generalize r.reads? e (s.isTold r) = item at leg adds
  generalize r.outcome? s.outlet e.now = outcome at leg adds
  cases leg with
  | told stopped phase =>
    exact passage.quiet runs adds (by simp) (by simp) (by simp [phase]) (by simp [phase])
      fun _ => told stopped
  | opened spawned phase =>
    -- It has read nothing yet, and unless it has its watch at once, it still has not.
    have unread := passage.unread (.inl spawned)
    rcases phase with phase | phase | phase | holds
    · exact passage.quiet runs adds (by simp) (by simp) (by simp [unread]) (by simp [phase])
        (by simp [phase])
    · exact passage.quiet runs adds (by simp) (by simp) (by simp [unread]) (by simp [phase])
        (by simp [phase])
    · exact passage.quiet runs adds (by simp) (by simp) (by simp [unread]) (by simp [phase])
        (by simp [phase])
    · exact passage.holding runs adds holds (by simp) (by simp)
  | goesOn holds => exact passage.holding runs adds holds (by simp) (by simp)
  | event c holds => exact passage.holding runs adds holds (by simp [Reading.isLast]) (by simp)
  | delivered holds => exact passage.holding runs adds holds (by simp) (by simp)
  | failure failure phase idle sent | ended phase idle sent =>
    exact passage.closing runs reporting found kind adds rfl (by simp [Runner.isRunning, phase])
      (by simp [phase]) (by simp [phase]) fun _ => ⟨idle, sent⟩
  | crash phase =>
    exact passage.closing runs reporting found kind adds rfl (by simp [Runner.isRunning, phase])
      (by simp [phase]) (by simp [phase]) (by simp [phase])
  | broken phase =>
    -- The write that fails is the last.
    have going := passage.going runs
    refine ⟨passage.before_step runs adds, ?_, ?_, ?_, ?_, ?_, ?_, ?_, adds.forwarded,
      adds.blamed⟩
    · simp [Runner.isRunning, phase]
    · simp [phase]
    · rw [adds.read, phase]
      exact iff_of_false (by simp) fun among => by cases going _ (by simpa using among)
    · rw [adds.read, phase]
      refine iff_of_false (by simp) ?_
      rintro ⟨f, among⟩
      cases going _ (by simpa using among)
    · simp [phase]
    · simp [phase]
    · rw [adds.wrote, phase]
      exact iff_of_true rfl (by simp)

end Passage

/-- How far all runners have come; one that is still to be started has done nothing. -/
structure Passages (past : List Occasion) (s : Session) : Prop where
  unborn : ∀ id, s.runners[id]? = none → ∀ o ∈ past, Occasion.own? id o = none
  passage : ∀ id r, s.runners[id]? = some r → Passage past s id r

/-- A runner that has just been started has done nothing. -/
private theorem Passage.fresh {id : Nat} {r : Runner} (spawned : r.phase = .spawned)
    (nothing : ∀ o ∈ past, Occasion.own? id o = none) : Passage past s id r := by
  -- A runner that is new has had no occasion of its own.
  have none {α : Type} (f : Runner → Occasion → Option α) :
      past.filterMap (fun o => (o.own? id).bind fun r => f r o) = [] := by
    refine List.filterMap_eq_nil_iff.mpr fun o among => ?_
    rw [nothing o among]
    rfl
  have read : readings id past = [] := none fun r o => r.reads? o.env (o.session.isTold r)
  have wrote : outcomes id past = [] := none fun r o => r.outcome? o.session.outlet o.env.now
  have grown (count : Metrics → Nat) : growth id count past = 0 :=
    congrArg (List.foldl (· + ·) (0 : Int)) (none fun _ o => (o.session.move o.env o.move).map
      fun after : Session × Surroundings => (count after.2.metrics : Int) - count o.env.metrics)
  refine ⟨?_, ?_, ?_, ?_, ?_, ?_, ?_, ?_, fun k => ?_, fun k => ?_⟩ <;>
    simp [read, wrote, grown, spawned, Runner.failures, Runner.hasFailed]

/-- Every move takes the runners on. -/
private theorem Passages.step {m : Move} (passages : Passages past s) (reporting : Reporting past s)
    (sound : s.Sound) (moved : s.move e m = some (s', e')) (accounts : Accounts s e m s' e') :
    Passages (past ++ [⟨s, e, m⟩]) s' := by
  have moves := move_moves moved
  have numbered := sound.numbered
  -- Where a place is free, nobody takes a step.
  have unborn {id : Nat} (missing : s.runners[id]? = none) :
      ∀ o ∈ past ++ [⟨s, e, m⟩], Occasion.own? id o = none :=
    Run.forall_concat (passages.unborn id missing) (own?_other (ne_task_of_missing moved missing))
  refine ⟨fun id missing => unborn (moves.missing numbered missing), fun id r' found' => ?_⟩
  -- A runner after the move has just been started, or was there and has gone on.
  rcases accounts id r' found' with ⟨missing, spawned, -⟩ | ⟨r, found, fate⟩
  · exact .fresh spawned (unborn missing)
  have passage := passages.passage id r found
  have kind := fate.scope.1
  cases fate with
  | stepped own steps told =>
    subst own
    exact passage.steps reporting found moved steps told
  | kept other same told =>
    exact passage.rests other kind (moves.framesOf numbered other) told
      (.inl (Runner.phase_of_core same))
  | stopped other ran same told =>
    exact passage.rests other kind (moves.framesOf numbered other) (fun _ => told)
      (.inr ⟨ran, by rw [same]⟩)

/-- How far all runners have come in any run. -/
theorem Run.passages (begins : Begins s₀) (run : Run s₀ e₀ past s e) : Passages past s := by
  -- Each new runner begins with nothing, and each step adds what it has read and written.
  refine run.keeps_along (P := fun past s _ => Passages past s) ?_ fun run moved held =>
    held.step (run.reporting begins) (run.sound begins) moved (run.accounts begins moved)
  refine ⟨fun _ _ o among => (by cases among), fun id r found => ?_⟩
  simp [begins.runners] at found

/-- A runner that has stopped puts nothing more on the connection. -/
theorem Run.framesOf_stopped {more : List Occasion} {id : Nat} {r : Runner} (begins : Begins s₀)
    (run : Run s₀ e₀ past s e) (found : s.runners[id]? = some r) (stopped : r.isRunning = false)
    (later : Run s e more s' e') : s'.framesOf id = s.framesOf id := by
  -- The induction is on what comes later: the runner stays stopped, and its frames stay.
  have held := later.keeps_along (P := fun _ t _ =>
    (∃ q, t.runners[id]? = some q ∧ q.isRunning = false) ∧ t.framesOf id = s.framesOf id)
    ⟨⟨r, found, stopped⟩, rfl⟩ ?_
  · exact held.2
  · rintro past' t t' x x' m first moved ⟨⟨q, there, rests⟩, same⟩
    have whole := run.append first
    have moves := move_moves moved
    have numbered := (whole.sound begins).numbered
    obtain ⟨q', there', fate⟩ :=
      (whole.accounts begins moved).later (moves.runners_length numbered) there
    -- It takes no step, and is not stopped once more.
    cases fate with
    | stepped _ steps _ =>
      rw [steps.running] at rests
      cases rests
    | kept other core _ =>
      refine ⟨⟨q', there', ?_⟩, (moves.framesOf numbered other).trans same⟩
      simpa [Runner.isRunning, Runner.phase_of_core core] using rests
    | stopped _ ran _ _ =>
      rw [ran] at rests
      cases rests

/-- A runner puts on the connection reports of the first events of its stream, in order.

This holds whatever its backend yields, whenever it is told to stop and however its writes end.

The events come before the first error or end.
They are all of these if that is what the runner stops for.

A runner puts nothing on the connection once it has stopped.
It stops for an error or the end of the stream when it has read it.
It stops for a failed write when there was one.
Otherwise it was told to stop, or its watch could not be opened.

Each of its writes that succeeded is counted once, and so is its failure, if it ends by one. -/
theorem runners_deliver {id : Nat} {r : Runner} (begins : Begins s₀)
    (run : Run s₀ e₀ past s e)
    (found : s.runners[id]? = some r) :
    (∀ stream : List Reading, readings id past <+: stream →
      s.framesOf id <+: Event.frames r.kind (Reading.eventsOf stream) ∧
      (r.phase = .finished .streamEnded ∨ r.phase = .finished .streamFailed →
        s.framesOf id = Event.frames r.kind (Reading.eventsOf stream))) ∧
    (∀ frame ∈ s.framesOf id, ∃ c op, Reading.event c ∈ readings id past ∧
      c.change.operation? = some op ∧
      frame = .message ⟨op, .known r.kind, c.project, some c.resource⟩) ∧
    (r.isRunning = false → ∀ more s' e', Run s e more s' e' →
      s'.framesOf id = s.framesOf id) ∧
    (r.phase = .finished .streamEnded ↔ .ended ∈ readings id past) ∧
    (r.phase = .finished .streamFailed ↔ ∃ f, .failure f ∈ readings id past) ∧
    (r.phase = .finished .sinkClosed ↔ false ∈ outcomes id past) ∧
    (r.phase = .finished .cancelled → s.isTold r = true) ∧
    (r.phase = .finished .openFailed → readings id past = [] ∧ s.framesOf id = []) ∧
    (∀ kind, growth id (·.forwarded.get kind) past =
      if r.kind = kind then ((outcomes id past).count true : Int) else 0) ∧
    (∀ kind, growth id (·.runnerFailures.get kind) past =
      if (r.phase = .finished .openFailed ∨ r.phase = .finished .streamFailed) ∧ r.kind = kind
      then 1 else 0) := by
  have passage := (run.passages begins).passage id r found
  have first := (run.reporting begins).first id r found
  -- Of what it has read only the last item can be an error or the end.
  have before : ∀ item ∈ (readings id past).dropLast, (!item.isLast) = true := by
    intro item among
    rw [passage.before item among]
    rfl
  have silent : ∀ item : Reading, (!item.isLast) = false → item.event? = none := by
    intro item last
    exact Reading.event?_of_isLast (by simpa using last)
  refine ⟨fun stream yields => ⟨?_, fun halted => ?_⟩, fun frame among => ?_,
    fun stopped more s' e' later => run.framesOf_stopped begins found stopped later, passage.ended,
    passage.failed, passage.broken, passage.told, fun refused =>
      ?_, passage.forwarded, fun kind => ?_⟩
  · rw [events_eq] at first
    exact first.trans (Event.frames_prefix (Trace.filterMap_prefix yields before silent))
  · rw [passage.whole halted, events_eq]
    refine congrArg _ (Trace.filterMap_whole yields before silent (.inl ?_))
    -- The item it has stopped for is among those it has read.
    rcases halted with ended | failed
    · exact ⟨_, passage.ended.mp ended, rfl⟩
    · obtain ⟨f, among⟩ := passage.failed.mp failed
      exact ⟨_, among, rfl⟩
  · -- A frame is the report of an event it has taken, and so of an item it has read.
    obtain ⟨c, taken, reported⟩ := List.mem_filterMap.mp (first.subset among)
    obtain ⟨m, report, rfl⟩ := Option.map_eq_some_iff.mp reported
    obtain ⟨op, known, rfl⟩ := Option.map_eq_some_iff.mp report
    rw [events_eq] at taken
    obtain ⟨item, read, event⟩ := List.mem_filterMap.mp taken
    have own : item = .event c := by
      cases item <;> simp_all [Reading.event?]
    exact ⟨c, op, own ▸ read, known, rfl⟩
  · -- Without a watch there was nothing to read, and so nothing to report.
    have unread := passage.unread (.inr (.inr refused))
    rw [events_eq, unread] at first
    exact ⟨unread, List.prefix_nil.mp first⟩
  · rw [passage.blamed, Runner.failures]
    simp only [Runner.hasFailed_iff]
    split <;> rfl

/-- A runner reports an event, passes over a replayed one, and fails for the error behind them. -/
theorem runners_deliver_failed :
    let named : Json := .object [("name", .string "a")]
    let items : List FeedItem :=
      [.event ⟨.replayed, "p", named⟩, .event ⟨.created, "p", named⟩,
      .failure (.backend "gone"), .event ⟨.created, "q", named⟩]
    let list : Playlist := ⟨[], 0, items, true⟩
    ∃ past s e r, Run (.start {} default .clear 0 false)
      (.start (.of (.played list))) past s e ∧
      s.runners[0]? = some r ∧ r.phase = .finished .streamFailed ∧
      s.framesOf 0 = [.message ⟨.created, .known .artifact, "p", some named⟩] ∧
      growth 0 (·.forwarded.get .artifact) past = 1 ∧
      growth 0 (·.runnerFailures.get .artifact) past = 1 := by
  -- The readings are played, and what was sent and counted is told by the theorem.
  intro named items list
  let runs : Move := .task (.runner 0)
  let moves : List Move :=
    [.arrive (.text "\x7b\"op\":\"subscribe\",\"kind\":\"Artifact\"\x7d"), .task .receiver,
      .task .receiver, .task .eventLoop, .task .eventLoop, .task .eventLoop, .task .eventLoop, runs,
      runs, runs, runs, runs, runs, runs]
  have plays : ((play (.start {} default .clear 0 false) (.start (.of (.played list))) moves).any
      fun p => decide ((p.2.1.runners[0]?.map fun r => (r.phase, r.kind)) =
        some (.finished .streamFailed, .artifact) ∧
        readings 0 p.1 = [.event ⟨.replayed, "p", named⟩, .event ⟨.created, "p", named⟩,
          .failure (.backend "gone")] ∧ outcomes 0 p.1 = [true])) = true := by
    decide +kernel
  obtain ⟨⟨past, s, e⟩, played, checked⟩ := (Option.any_eq_true _ _).mp plays
  obtain ⟨there, read, wrote⟩ := of_decide_eq_true checked
  obtain ⟨r, found, same⟩ := Option.map_eq_some_iff.mp there
  obtain ⟨phase, kind⟩ := Prod.mk.inj same
  have run := Run.of_play played
  obtain ⟨sent, -, -, -, -, -, -, -, forwarded, failed⟩ :=
    runners_deliver (.attended _ _ _ _ _) run found
  refine ⟨past, s, e, r, run, found, phase, ?_, ?_, ?_⟩
  · rw [(sent _ List.prefix_rfl).2 (.inr phase), read, kind]
    rfl
  · rw [forwarded, kind, wrote]
    rfl
  · rw [failed, kind, phase]
    simp

end Session

end WatchRelay
