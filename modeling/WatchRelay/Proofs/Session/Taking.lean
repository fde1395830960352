import WatchRelay.Proofs.Session.Forwarding

/-! What runners take from their watches: all that they put on the connection comes from it,
whatever backend they watch. -/

namespace WatchRelay

/-- The event a reading brings. -/
def Reading.event? : Reading → Option Event
  | .event e => some e
  | .failure _ | .ended | .crash | .passed | .pending => none

namespace Runner

/-- The event that the next step of a runner takes from its watch, if it takes one. -/
def takes? (r : Runner) (e : Surroundings) (stopped : Bool) : Option Event :=
  match r.phase with
  | .streaming w => if stopped then none else (e.source.read e.now w).1.event?
  | .spawned | .opening | .forwarding _ _ _ | .finished _ | .crashed | .aborted => none

variable {r r' : Runner} {o o' : Outlet} {e e' : Surroundings} {credentials : Credentials}
  {stopped : Bool} {f : Option SessionFailure}

/-- A runner that does not wait for its watch takes nothing from it. -/
theorem takes?_of_ne (other : ∀ w, r.phase ≠ .streaming w) : r.takes? e stopped = none := by
  -- An event is taken from a stream only.
  unfold takes?
  split
  · next w waits => exact absurd waits (other w)
  all_goals rfl

/-- What a runner that reads from its watch makes of the event: the event is what it has in hand
then, if it is reported. -/
private theorem consume_reports {w : Nat} (waits : r.phase = .streaming w)
    (untold : stopped = false)
    (consumes : r.consume o { e with source := (e.source.read e.now w).2 } w
      (e.source.read e.now w).1 = some (r', o', e', f)) :
    o'.sent = o.sent ∧
      (r'.unsent = Event.frames r.kind (r.takes? e stopped).toList ∨
        r'.isRunning = false ∧ r'.unsent = []) := by
  have takes : r.takes? e stopped = (e.source.read e.now w).1.event? := by
    simp [takes?, waits, untold]
  have idle : r.unsent = [] := by simp [unsent, waits]
  rw [takes]
  generalize (e.source.read e.now w).1 = reading at consumes
  unfold consume at consumes
  split at consumes
  · next c =>
    -- An event without a report is read past.
    split at consumes
    · next silent =>
      cases consumes
      refine ⟨rfl, .inl ?_⟩
      simp [idle, Reading.event?, Event.frames, Event.frame?, silent]
    · next m reports =>
      cases consumes
      exact ⟨rfl, .inl (Event.frames_singleton reports).symm⟩
  -- All other readings bring no event, and most of them make the runner stop.
  · cases consumes; exact ⟨rfl, .inr ⟨rfl, rfl⟩⟩
  · cases consumes; exact ⟨rfl, .inr ⟨rfl, rfl⟩⟩
  · cases consumes; exact ⟨rfl, .inr ⟨rfl, rfl⟩⟩
  · cases consumes; exact ⟨rfl, .inl idle⟩
  · cases consumes

/-- What a runner has put on the connection and has in hand grows by the report of the event it
takes in a step, or the runner stops and lets go what it had in hand. -/
theorem Steps.reports (moved : r.Steps o e credentials stopped (r', o', e', f)) :
    o'.sentBy (.runner r.id) ++ r'.unsent =
        o.sentBy (.runner r.id) ++ r.unsent ++ Event.frames r.kind (r.takes? e stopped).toList ∨
      r'.isRunning = false ∧ r'.unsent = [] ∧
        o'.sentBy (.runner r.id) = o.sentBy (.runner r.id) := by
  have nothing (none : r.takes? e stopped = none) :
      Event.frames r.kind (r.takes? e stopped).toList = [] := by rw [none]; rfl
  generalize whole : (r', o', e', f) = change at moved
  cases moved with
  | toldFirst _ _ => cases whole; exact .inr ⟨rfl, rfl, rfl⟩
  | opened spawned _ =>
    -- Before it has its watch, a runner has nothing in hand.
    obtain ⟨rfl, idle⟩ := openWatch_rests whole.symm
    rw [nothing (takes?_of_ne (by simp [spawned])), unsent_of_idle idle,
      unsent_of_idle (r := r) (by simp [errand?, spawned])]
    exact .inl (by simp)
  | told _ _ => cases whole; exact .inr ⟨rfl, rfl, rfl⟩
  | @consumed w _ waits untold consumes =>
    subst whole
    obtain ⟨same, taken | ⟨ended, none⟩⟩ := consume_reports waits untold consumes
    · have idle : r.unsent = [] := by simp [unsent, waits]
      rw [Outlet.sentBy_of_sent same, idle, List.append_nil, taken]
      exact .inl rfl
    · exact .inr ⟨ended, none, Outlet.sentBy_of_sent same _⟩
  | @wrote w m stage stage' _ forwards writes =>
    -- While it writes, a runner takes nothing, and what it has in hand goes on the connection.
    cases whole
    rw [nothing (takes?_of_ne (by simp [forwards])), List.append_nil]
    refine .inl ?_
    show o'.sentBy (.runner r.id) ++ stage'.unsent (.message m) = _
    rw [(Outlet.stepWrite_writes writes).sentBy_on, unsent, forwards]
  | @forwarded w m stage _ _ forwards writes =>
    cases whole
    rw [nothing (takes?_of_ne (by simp [forwards])), List.append_nil]
    refine .inl ?_
    show o'.sentBy (.runner r.id) ++ [] = _
    rw [List.append_nil, (Outlet.stepWrite_writes writes).sentBy_done, unsent, forwards]
  | failed _ writes =>
    cases whole
    exact .inr ⟨rfl, rfl, (Outlet.stepWrite_writes writes).sentBy_failed⟩

end Runner

namespace Session

variable {s s' s₀ : Session} {e e' e₀ : Surroundings} {past : List Occasion}

/-- The event a runner takes from its watch in a move. -/
def Occasion.event? (id : Nat) (o : Occasion) : Option Event :=
  match o.move with
  | .task (.runner own) =>
    if own = id then
      o.session.runners[id]?.bind fun r => r.takes? o.env (o.session.isTold r)
    else none
  | _ => none

/-- The events a runner has taken from its watch, in order. -/
def events (id : Nat) (past : List Occasion) : List Event := past.filterMap (Occasion.event? id)

/-- What the runners of a session report.

A runner that is still to be started has done nothing.
What a runner has put on the connection are the first reports of what it has taken.
As long as it runs, it has the others in hand. -/
structure Reporting (past : List Occasion) (s : Session) : Prop where
  unborn : ∀ id, s.runners[id]? = none → s.framesOf id = [] ∧ events id past = []
  first : ∀ id r, s.runners[id]? = some r →
    s.framesOf id <+: Event.frames r.kind (events id past)
  whole : ∀ id r, s.runners[id]? = some r → r.isRunning = true →
    s.framesOf id ++ r.unsent = Event.frames r.kind (events id past)

/-- A runner takes events in its own steps only. -/
theorem events_other {m : Move} {id : Nat} (other : m ≠ .task (.runner id)) :
    events id (past ++ [⟨s, e, m⟩]) = events id past := by
  -- Another move takes no event for this runner.
  have nothing : Occasion.event? id ⟨s, e, m⟩ = none := by
    unfold Occasion.event?
    split
    · next own same =>
      refine if_neg fun number => other ?_
      rw [← number]
      exact same
    · rfl
  rw [events, Run.filterMap_concat, nothing]
  exact List.append_nil _

/-- In its own step, a runner takes what its watch has for it. -/
theorem events_own {id : Nat} {r : Runner} (found : s.runners[id]? = some r) :
    events id (past ++ [⟨s, e, .task (.runner id)⟩]) =
      events id past ++ (r.takes? e (s.isTold r)).toList := by
  rw [events, Run.filterMap_concat]
  simp [Occasion.event?, found, events]

/-- Every move keeps the reports to what was taken. -/
theorem Reporting.step {m : Move} (held : Reporting past s) (sound : s.Sound)
    (moved : s.move e m = some (s', e')) (accounts : Accounts s e m s' e') :
    Reporting (past ++ [⟨s, e, m⟩]) s' := by
  have moves := move_moves moved
  have numbered := sound.numbered
  -- Whoever takes no step in the move reports and takes nothing in it.
  have rests {id : Nat} (other : m ≠ .task (.runner id)) : s'.framesOf id = s.framesOf id ∧
      events id (past ++ [⟨s, e, m⟩]) = events id past :=
    ⟨moves.framesOf numbered other, events_other other⟩
  have becomes (id : Nat) (r' : Runner) (found' : s'.runners[id]? = some r') :
      s'.framesOf id <+: Event.frames r'.kind (events id (past ++ [⟨s, e, m⟩])) ∧
        (r'.isRunning = true →
          s'.framesOf id ++ r'.unsent =
            Event.frames r'.kind (events id (past ++ [⟨s, e, m⟩]))) := by
    rcases accounts id r' found' with ⟨missing, spawned, other⟩ | ⟨r, found, fate⟩
    · -- A new runner has nothing on the connection and nothing in hand.
      have idle : r'.unsent = [] := by simp [Runner.unsent, spawned]
      rw [(rests other).1, (rests other).2, (held.unborn id missing).1, (held.unborn id missing).2,
        idle]
      exact ⟨List.nil_prefix, fun _ => rfl⟩
    have scope := fate.scope
    rw [scope.1]
    cases fate with
    | @stepped f own steps _ =>
      -- The event that is taken in the step is the last of those that were taken.
      subst own
      have whole := held.whole id r found steps.running
      have number : r.id = id := numbered id r found
      have reports := steps.reports
      rw [number] at reports
      rw [events_own found, Event.frames_append, ← whole]
      rcases reports with same | ⟨ended, -, same⟩
      · have same : s'.framesOf id ++ r'.unsent = _ := same
        exact ⟨⟨_, same⟩, fun _ => same⟩
      · have same : s'.framesOf id = s.framesOf id := same
        refine ⟨?_, fun runs => ?_⟩
        · rw [same, List.append_assoc]
          exact List.prefix_append _ _
        · rw [ended] at runs
          cases runs
    | kept other same _ =>
      have phase := Runner.phase_of_core same
      rw [(rests other).1, (rests other).2]
      refine ⟨held.first id r found, fun runs => ?_⟩
      have same : r'.unsent = r.unsent := by simp [Runner.unsent, phase]
      rw [same]
      exact held.whole id r found (by simpa [Runner.isRunning, phase] using runs)
    | stopped other _ same _ =>
      -- What a runner that is stopped had in hand is let go.
      rw [(rests other).1, (rests other).2]
      refine ⟨held.first id r found, fun runs => ?_⟩
      rw [same] at runs
      cases runs
  refine ⟨fun id missing => ?_, fun id r' found' => (becomes id r' found').1,
    fun id r' found' => (becomes id r' found').2⟩
  have before := moves.missing numbered missing
  obtain ⟨frames, taken⟩ := rests (ne_task_of_missing moved before)
  rw [frames, taken]
  exact held.unborn id before

/-- In any run, runners report what they have taken. -/
theorem Run.reporting (begins : Begins s₀) (run : Run s₀ e₀ past s e) : Reporting past s := by
  -- A session that begins has no runner and has sent nothing.
  refine run.keeps_along (P := fun past s _ => Reporting past s) ?_ fun run moved held =>
    held.step (run.sound begins) moved (run.accounts begins moved)
  have sent : s₀.outlet.sent = [] := by cases begins <;> rfl
  refine ⟨fun id _ => ⟨?_, rfl⟩, fun id r found => ?_, fun id r found => ?_⟩
  · rw [framesOf, Outlet.sentBy, sent]
    rfl
  · simp [begins.runners] at found
  · simp [begins.runners] at found

end Session

end WatchRelay
