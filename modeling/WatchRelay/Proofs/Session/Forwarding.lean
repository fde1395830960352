import WatchRelay.Proofs.Session.Runners
import WatchRelay.Proofs.Session.Watches

/-! What runners forward: the changes made since their watch opened, in order and none left out. -/

namespace WatchRelay

namespace Event

/-- The frame that reports a change to a client, if it has one. -/
def frame? (kind : ResourceKind) (e : Event) : Option OutFrame :=
  (e.notification? kind).map .message

/-- The frames that report changes, in order. -/
def frames (kind : ResourceKind) (events : List Event) : List OutFrame :=
  events.filterMap (frame? kind)

theorem frames_append (kind : ResourceKind) (a b : List Event) :
    frames kind (a ++ b) = frames kind a ++ frames kind b := List.filterMap_append

/-- The frames of fewer changes are the first of the frames of more. -/
theorem frames_prefix {kind : ResourceKind} {a b : List Event} (first : a <+: b) :
    frames kind a <+: frames kind b := by
  obtain ⟨rest, rfl⟩ := first
  exact ⟨frames kind rest, (frames_append kind a rest).symm⟩

/-- A change that is reported as something is one report. -/
theorem frames_singleton {kind : ResourceKind} {e : Event} {m : Message}
    (reports : e.notification? kind = some m) : frames kind [e] = [.message m] := by
  simp [frames, frame?, reports]

end Event

/-- What was put on the connection of what a watch has yielded is of what is due from it. -/
theorem Watch.Follows.frames_prefix {x : Watch} {f : Feed} {changes received : List Event}
    {kind : ResourceKind} {frames unsent : List OutFrame}
    (follows : x.Follows f [] changes received)
    (sent : frames ++ unsent = Event.frames kind received) :
    frames <+: Event.frames kind (x.request.select changes) := by
  have first : frames <+: Event.frames kind received := ⟨unsent, sent⟩
  exact first.trans (Event.frames_prefix follows.bounded)

/-- Every change in the catalog is reported, with the resource as it is. -/
theorem Hub.change?_frame {h : Hub} {kind : ResourceKind} {action : HubAction} {c : Event}
    (changed : h.change? kind action = some c) :
    ∃ op, c.change.operation? = some op ∧
      c.frame? kind = some (.message ⟨op, .known kind, c.project, some c.resource⟩) := by
  -- Only what is replayed is not reported.
  have real := (h.act_acts kind action).ne_replayed changed
  cases which : c.change with
  | replayed => exact absurd which real
  | _ =>
    refine ⟨_, rfl, ?_⟩
    simp [Event.frame?, Event.notification?, which, Change.operation?, Message.notification]

/-- What a write has still to put on the connection. -/
def WriteStage.unsent (frame : OutFrame) : WriteStage → List OutFrame
  | .queued | .sending _ => [frame]
  | .flushing _ => []

namespace Outlet

variable {o o' : Outlet} {now : Nat} {w : Writer} {frame : OutFrame} {stage : WriteStage}

/-- Where no frame is taken, none of a writer's is. -/
theorem sentBy_of_sent (same : o'.sent = o.sent) (w : Writer) : o'.sentBy w = o.sentBy w := by
  rw [sentBy, same, sentBy]

/-- A write that goes on puts its frame on the connection once. -/
theorem Writes.sentBy_on {stage' : WriteStage}
    (writes : o.Writes now w frame stage o' (.on stage')) :
    o'.sentBy w ++ stage'.unsent frame = o.sentBy w ++ stage.unsent frame := by
  -- The frame is still to be put there until the transport takes it.
  cases writes with
  | turn _ _ => rfl
  | accepted deadline => simp [sentBy, WriteStage.unsent]

/-- A write that succeeds has put its frame on the connection before. -/
theorem Writes.sentBy_done {f : Option SessionFailure}
    (writes : o.Writes now w frame stage o' (.done true f)) :
    o'.sentBy w = o.sentBy w ++ stage.unsent frame := by
  cases writes with
  | flushed deadline => exact (sentBy_of_sent (sent_leave o w) w).trans (List.append_nil _).symm

/-- A write that fails puts nothing more on the connection. -/
theorem Writes.sentBy_failed {f : Option SessionFailure}
    (writes : o.Writes now w frame stage o' (.done false f)) : o'.sentBy w = o.sentBy w := by
  -- A write without success is refused or given up, and neither puts a frame down.
  cases writes with
  | refused _ _ => exact sentBy_of_sent (sent_leave o w) w
  | failed _ _ => exact sentBy_of_sent (sent_discard o now) w

end Outlet

namespace Runner

/-- The report that a runner has taken from its watch and not yet put on the connection. -/
def unsent (r : Runner) : List OutFrame :=
  match r.phase with
  | .forwarding _ m stage => stage.unsent (.message m)
  | .spawned | .opening | .streaming _ | .finished _ | .crashed | .aborted => []

/-- A runner that is about nothing on the write side has nothing to put there. -/
theorem unsent_of_idle {r : Runner} (idle : r.errand? = none) : r.unsent = [] := by
  -- Only a runner that forwards has a frame that is still to be written.
  unfold errand? at idle
  unfold unsent
  split at idle <;> simp_all

/-- A runner without a watch has nothing to forward. -/
theorem unsent_of_without {r : Runner} (without : r.watch? = none) : r.unsent = [] := by
  cases phase : r.phase <;> simp_all [unsent, watch?]

/-- A runner that has stopped has nothing to forward. -/
theorem unsent_of_ended {r : Runner} (ended : r.isRunning = false) : r.unsent = [] := by
  cases phase : r.phase <;> simp_all [unsent, isRunning]

/-- A runner has at most one report in hand. -/
theorem unsent_length (r : Runner) : r.unsent.length ≤ 1 := by
  -- A runner forwards one event at a time.
  unfold unsent
  split
  · next stage _ => cases stage <;> simp [WriteStage.unsent]
  all_goals simp

/-- A runner without a watch has nothing to forward, nor has it after a step. -/
theorem Steps.without {r r' : Runner} {o o' : Outlet} {e e' : Surroundings}
    {credentials : Credentials} {stopped : Bool} {f : Option SessionFailure}
    (moved : r.Steps o e credentials stopped (r', o', e', f)) (without : r.watch? = none) :
    o' = o ∧ r'.unsent = [] := by
  generalize whole : (r', o', e', f) = change at moved
  -- Without a watch, a runner has still to open one or stops.
  cases moved with
  | toldFirst _ _ => cases whole; exact ⟨rfl, rfl⟩
  | opened _ _ =>
    obtain ⟨same, idle⟩ := openWatch_rests whole.symm
    exact ⟨same, unsent_of_idle idle⟩
  | told _ _ => cases whole; exact ⟨rfl, rfl⟩
  | consumed waits _ _ => simp [watch?, waits] at without
  | wrote forwards _ => simp [watch?, forwards] at without
  | forwarded forwards _ => simp [watch?, forwards] at without
  | failed forwards _ => simp [watch?, forwards] at without

end Runner

namespace Session

variable {s s' s₀ : Session} {e e' e₀ : Surroundings} {past : List Occasion}

/-- Whether a runner gets its watch in a move. -/
def Occasion.opensWatch (id : Nat) (o : Occasion) : Bool :=
  match o.session.move o.env o.move with
  | some (s', _) => (o.session.watchOf id).isNone && (s'.watchOf id).isSome
  | none => false

/-- The changes to the resources of a kind that were made since a runner got its watch, in order. -/
def changesSince (id : Nat) (kind : ResourceKind) : List Occasion → List Event
  | [] => []
  | o :: later =>
    if o.opensWatch id then later.filterMap (Occasion.change? kind)
    else changesSince id kind later

/-- A runner that has got its watch has got it in one of the moves so far, also after more. -/
theorem opened_later {id : Nat} (opened : ∃ o ∈ past, o.opensWatch id = true)
    (last : Occasion) :
    ∃ o ∈ past ++ [last], o.opensWatch id = true := by
  obtain ⟨o, member, opens⟩ := opened
  exact ⟨o, List.mem_append_left _ member, opens⟩

/-- A runner that does not get its watch in a move is without, if it was before. -/
theorem never_later {id : Nat} (never : ∀ o ∈ past, o.opensWatch id = false) {last : Occasion}
    (closed : last.opensWatch id = false) : ∀ o ∈ past ++ [last], o.opensWatch id = false :=
  Run.forall_concat never closed

/-- The changes begin when a runner gets its watch, and there are none before. -/
theorem changesSince_never {id : Nat} (kind : ResourceKind)
    (never : ∀ o ∈ past, o.opensWatch id = false) (last : List Occasion) :
    changesSince id kind (past ++ last) = changesSince id kind last := by
  -- The moves are passed one by one until the one in which the watch opens.
  induction past with
  | nil => rfl
  | cons o rest ih =>
    have first := never o List.mem_cons_self
    rw [List.cons_append, changesSince, if_neg (by simp [first])]
    exact ih fun x member => never x (List.mem_cons_of_mem _ member)

/-- From then on every change counts. -/
theorem changesSince_opened {id : Nat} (kind : ResourceKind)
    (opened : ∃ o ∈ past, o.opensWatch id = true) (last : List Occasion) :
    changesSince id kind (past ++ last) =
      changesSince id kind past ++ last.filterMap (Occasion.change? kind) := by
  induction past with
  | nil => simp at opened
  | cons o rest ih =>
    rw [List.cons_append, changesSince, changesSince]
    split
    · exact List.filterMap_append
    · next closed =>
      -- The runner gets its watch later than in this move.
      obtain ⟨x, member, opens⟩ := opened
      rcases List.mem_cons.mp member with rfl | later
      · exact absurd opens closed
      · exact ih ⟨x, later, opens⟩

/-- Every change since a runner got its watch is reported, with the resource as it is. -/
theorem changesSince_frame {id : Nat} {kind : ResourceKind} {c : Event}
    (member : c ∈ changesSince id kind past) :
    ∃ op, c.change.operation? = some op ∧
      c.frame? kind = some (.message ⟨op, .known kind, c.project, some c.resource⟩) := by
  -- The changes are gathered from the move on that has opened the watch.
  induction past with
  | nil => cases member
  | cons o rest ih =>
    rw [changesSince] at member
    split at member
    · -- The change was made in some move, which acted on the catalog.
      obtain ⟨x, -, changed⟩ := List.mem_filterMap.mp member
      unfold Occasion.change? at changed
      split at changed
      · exact Hub.change?_frame changed
      · cases changed
    · exact ih member

/-- What a runner has put on the connection. -/
def framesOf (s : Session) (id : Nat) : List OutFrame := s.outlet.sentBy (.runner id)

/-- Why a runner that had its watch stopped before it forwarded everything. -/
inductive StopsShort (room : Nat) (past : List Occasion) (s : Session) (id : Nat) (r : Runner) :
    Prop where
  /-- It was told to stop. -/
  | told (phase : r.phase = .finished .cancelled ∨ r.phase = .aborted)
      (told : s.isTold r = true) : StopsShort room past s id r
  /-- A write of its own failed. -/
  | failed (phase : r.phase = .finished .sinkClosed)
      (failure : ∃ o ∈ past, o.move = .task (.runner id) ∧ o.failsWrite = true) :
      StopsShort room past s id r
  /-- It found more unread changes than there is room for, and forwarded none of them. -/
  | lagged {before later : List Occasion} {o : Occasion} {read unread : List Event}
      (phase : r.phase = .finished .streamFailed) (split : past = before ++ o :: later)
      (own : o.move = .task (.runner id))
      (changes : changesSince id r.kind before = read ++ unread) (far : room < unread.length)
      (sent : s.framesOf id =
        Event.frames r.kind ((WatchRequest.live r.kind r.project).select read)) :
      StopsShort room past s id r

/-- How a runner stands to the changes made since it got its watch. -/
inductive Standing (room : Nat) (past : List Occasion) (s : Session) (hub : Hub) (id : Nat)
    (r : Runner) : Prop where
  /-- It never had a watch, or has it still to get. -/
  | unopened (never : ∀ o ∈ past, o.opensWatch id = false) (without : r.watch? = none)
      (sent : s.framesOf id = [])
  /-- What its watch has yielded is on the connection or about to be. -/
  | carrying {w : Nat} {x : Watch} {received : List Event}
      (opened : ∃ o ∈ past, o.opensWatch id = true) (held : r.watch? = some w)
      (there : hub.watch? w = some x) (asked : x.request = .live r.kind r.project)
      (follows : x.Follows (hub.feed r.kind) [] (changesSince id r.kind past) received)
      (sent : s.framesOf id ++ r.unsent = Event.frames r.kind received)
  | stopped (opened : ∃ o ∈ past, o.opensWatch id = true) (ended : r.isRunning = false)
      (sent : s.framesOf id <+: Event.frames r.kind
        ((WatchRequest.live r.kind r.project).select (changesSince id r.kind past)))
      (why : StopsShort room past s id r)

/-- What a runner has put on the connection and has in hand are reports of what is due to it. -/
theorem Standing.bounded {room id : Nat} {hub : Hub} {r : Runner}
    (standing : Standing room past s hub id r) : s.framesOf id ++ r.unsent <+: Event.frames r.kind
      ((WatchRequest.live r.kind r.project).select (changesSince id r.kind past)) := by
  cases standing with
  | unopened _ without sent =>
    rw [sent, Runner.unsent_of_without without]
    exact List.nil_prefix
  | carrying _ _ _ asked follows sent =>
    -- All that its watch has yielded is of what is due from it.
    rw [sent, ← asked]
    exact Event.frames_prefix follows.bounded
  | stopped _ ended sent _ =>
    rw [Runner.unsent_of_ended ended, List.append_nil]
    exact sent

/-- A runner that stopped short stays so. -/
theorem StopsShort.later {room id : Nat} {r r' : Runner} {more : List Occasion}
    (short : StopsShort room past s id r) (phase : r'.phase = r.phase)
    (scope : r'.kind = r.kind ∧ r'.project = r.project) (frames : s'.framesOf id = s.framesOf id)
    (told : s.isTold r = true → s'.isTold r' = true) :
    StopsShort room (past ++ more) s' id r' := by
  -- Why it has stopped is found in what came before, which stays where it is.
  cases short with
  | told which stops =>
    rw [← phase] at which
    exact .told which (told stops)
  | failed which failure =>
    obtain ⟨o, member, own, fails⟩ := failure
    exact .failed (phase.trans which) ⟨o, List.mem_append_left _ member, own, fails⟩
  | @lagged before later o read unread which split own changes far sent =>
    have split : past ++ more = before ++ o :: (later ++ more) := by
      rw [split, List.append_assoc, List.cons_append]
    rw [← scope.1] at changes sent
    rw [← frames, ← scope.2] at sent
    exact .lagged (phase.trans which) split own changes far sent

/-- What was put on the connection of what was published then is of what is published now. -/
theorem frames_select_grows {frames : List OutFrame} {kind : ResourceKind} (request : WatchRequest)
    {changes : List Event} (more : List Event)
    (sent : frames <+: Event.frames kind (request.select changes)) :
    frames <+: Event.frames kind (request.select (changes ++ more)) := by
  rw [WatchRequest.select_append]
  exact sent.trans (Event.frames_prefix (List.prefix_append _ _))

/-- A runner puts frames on the connection in its own steps only. -/
theorem Moves.framesOf {m : Move} {id : Nat} (numbered : s.Numbered) (moved : s.Moves e m s' e')
    (other : m ≠ .task (.runner id)) : s'.framesOf id = s.framesOf id := by
  refine (moved.writeSide numbered).sentBy fun acts => other ?_
  -- A runner acts in a step of the task with its number alone.
  cases m with
  | task t =>
    cases t with
    | runner own =>
      obtain rfl : own = id := by simpa [Move.acts, Task.writer?] using acts
      rfl
    | _ => simp [Move.acts, Task.writer?] at acts
  | _ => cases acts

/-- Whether a runner gets its watch in a move shows in the sessions before it and after it. -/
theorem opensWatch_of {m : Move} (moved : s.move e m = some (s', e')) (id : Nat) :
    Occasion.opensWatch id ⟨s, e, m⟩ = ((s.watchOf id).isNone && (s'.watchOf id).isSome) := by
  simp [Occasion.opensWatch, moved]

/-- What a move does with the catalog adds to the changes since a runner got its watch. -/
theorem Draws.changes_grow {id : Nat} {hub : Hub} {m : Move} {actions : List HubAction}
    (draws : Draws s s' e m hub actions) (opened : ∃ o ∈ past, o.opensWatch id = true)
    (kind : ResourceKind) : changesSince id kind (past ++ [⟨s, e, m⟩]) =
      changesSince id kind past ++ hub.changes kind actions := by
  rw [changesSince_opened kind opened, draws.changes]
  exact congrArg _ (Run.filterMap_concat (Occasion.change? kind) [] _)

/-- A runner that has the same watch after a move, or lost it, does not get one in the move. -/
theorem opensWatch_of_kept {id : Nat} {r r' : Runner} {m : Move}
    (moved : s.move e m = some (s', e'))
    (found : s.runners[id]? = some r) (found' : s'.runners[id]? = some r')
    (same : r'.watch? = r.watch? ∨ r'.watch? = none) :
    -- No watch is held after the move that was not held before it.
    Occasion.opensWatch id ⟨s, e, m⟩ = false := by
  rw [opensWatch_of moved, watchOf_eq found, watchOf_eq found']
  rcases same with same | gone
  · simp [same]
  · simp [gone]

/-- A runner stands where it stood after what happens besides its own steps: what is published is
owed to it. -/
theorem Standing.kept {room id : Nat} {hub : Hub} {r r' : Runner} {m : Move}
    {actions : List HubAction} (standing : Standing room past s hub id r)
    (moved : s.move e m = some (s', e')) (numbered : s.Numbered) (holding : s.Holding hub)
    (draws : Draws s s' e m hub actions) (found : s.runners[id]? = some r)
    (found' : s'.runners[id]? = some r') (other : m ≠ .task (.runner id))
    (scope : r'.kind = r.kind ∧ r'.project = r.project)
    (told : s.isTold r = true → s'.isTold r' = true) (phase : r'.phase = r.phase) :
    Standing room (past ++ [⟨s, e, m⟩]) s' (hub.after actions) id r' := by
  have frames := (move_moves moved).framesOf numbered other
  have watch : r'.watch? = r.watch? := by simp [Runner.watch?, phase]
  cases standing with
  | unopened never without sent =>
    have closed := opensWatch_of_kept moved found found' (.inl watch)
    exact .unopened (never_later never closed) (watch.trans without) (frames.trans sent)
  | @carrying w x received opened held there asked follows sent =>
    have held' : r'.watch? = some w := watch.trans held
    -- Nobody else touches the watch, and what was published is owed to it.
    have spares : ∀ a ∈ actions, a.Spares w := by
      rcases draws.watch id w ((watchOf_eq found').trans held') with ⟨-, spares⟩ | ⟨mine, -⟩
      · exact spares other
      · exact absurd mine other
    have known := holding.known id w ((watchOf_eq found).trans held)
    have kept := (Hub.after_spares known spares).1
    have follows := follows.publish (hub.after_log r.kind actions)
    rw [← draws.changes_grow opened, ← scope.1] at follows
    have unsent : r'.unsent = r.unsent := by simp [Runner.unsent, phase]
    rw [← frames, ← unsent, ← scope.1] at sent
    rw [← scope.1, ← scope.2] at asked
    exact .carrying (opened_later opened _) held' (kept.trans there) asked follows sent
  | stopped opened ended sent why =>
    -- A runner that has stopped stays as it is, and only what is due grows.
    have ended' : r'.isRunning = false := by
      rw [← ended]
      simp [Runner.isRunning, phase]
    -- What is due only grows, so it still begins with what was sent.
    refine .stopped (opened_later opened _) ended' ?_ (why.later phase scope frames told)
    rw [frames, scope.1, scope.2, draws.changes_grow opened]
    exact frames_select_grows _ _ sent

/-- A runner that is stopped from outside forwards nothing more of what is due. -/
theorem Standing.aborted {room id : Nat} {hub : Hub} {r r' : Runner} {m : Move}
    {actions : List HubAction} (standing : Standing room past s hub id r)
    (moved : s.move e m = some (s', e')) (numbered : s.Numbered)
    (draws : Draws s s' e m hub actions) (found : s.runners[id]? = some r)
    (found' : s'.runners[id]? = some r') (other : m ≠ .task (.runner id))
    (scope : r'.kind = r.kind ∧ r'.project = r.project) (ran : r.isRunning = true)
    (gone : r'.phase = .aborted) (told : s'.isTold r' = true) :
    Standing room (past ++ [⟨s, e, m⟩]) s' (hub.after actions) id r' := by
  have frames := (move_moves moved).framesOf numbered other
  have without : r'.watch? = none := by simp [Runner.watch?, gone]
  cases standing with
  | unopened never _ sent =>
    have closed := opensWatch_of_kept moved found found' (.inr without)
    exact .unopened (never_later never closed) without (frames.trans sent)
  | carrying opened _ _ asked follows sent =>
    -- What it has taken up and not put on the connection is lost with it.
    refine .stopped (opened_later opened _) (by simp [Runner.isRunning, gone]) ?_
      (.told (.inr gone) told)
    rw [frames, scope.1, scope.2, draws.changes_grow opened, ← asked]
    exact frames_select_grows _ _ (follows.frames_prefix sent)
  | stopped _ ended _ _ =>
    -- A runner that has stopped is not stopped again.
    rw [ended] at ran
    cases ran

/-- A runner that has just got its watch has read nothing from it. -/
theorem Standing.fresh {room id : Nat} {hub hub' : Hub} {r : Runner} {credentials : Credentials}
    (fresh : hub.Fresh)
    (answer : hub.openWatch (.live r.kind r.project) credentials = .ok (hub.nextWatch, hub'))
    (opened : ∃ o ∈ past, o.opensWatch id = true) (none : changesSince id r.kind past = [])
    (held : r.watch? = some hub.nextWatch) (sent : s.framesOf id = []) (nothing : r.unsent = []) :
    Standing room past s hub' id r := by
  -- The watch has been opened in this step, so nothing has been read of it.
  obtain ⟨x, there, live⟩ : ∃ x, hub'.watch? hub.nextWatch = some x ∧ x.phase = .live :=
    ⟨_, fresh.watch?_opened answer, rfl⟩
  have tracks : hub'.Tracks hub.nextWatch (.live r.kind r.project) [] [] [] := fresh.tracks answer
  obtain ⟨asked, follows⟩ := tracks.follows x there
  have follows : x.Follows (hub'.feed r.kind) [] (changesSince id r.kind past) [] := by
    rw [none]
    exact follows live
  have sent : s.framesOf id ++ r.unsent = Event.frames r.kind [] := by
    rw [sent, nothing]
    rfl
  exact .carrying opened held there asked follows sent

/-- The step of a runner that has no watch yet: it gets one, from which it has read nothing, or it
stays without. -/
theorem Standing.begins {room id : Nat} {hub hub' : Hub} {r r' : Runner} {f : Option SessionFailure}
    (never : ∀ o ∈ past, o.opensWatch id = false) (without : r.watch? = none)
    (sent : s.framesOf id = []) (moved : s.move e (.task (.runner id)) = some (s', e'))
    (catalog : e.catalog? = some hub) (catalog' : e'.catalog? = some hub') (fresh : hub.Fresh)
    (found : s.runners[id]? = some r) (found' : s'.runners[id]? = some r')
    (steps : r.Steps s.outlet e s.credentials (s.isTold r) (r', s'.outlet, e', f)) :
    Standing room (past ++ [⟨s, e, .task (.runner id)⟩]) s' hub' id r' := by
  have opens := opensWatch_of moved id
  rw [watchOf_eq found, watchOf_eq found', without, Option.isNone_none, Bool.true_and] at opens
  obtain ⟨same, nothing⟩ := steps.without without
  have frames : s'.framesOf id = [] := by rw [framesOf, same]; exact sent
  obtain ⟨actions, drawn, uses⟩ := steps.uses catalog
  obtain rfl := Option.some.inj (catalog'.symm.trans drawn)
  -- A watch that is held after the step was opened in it.
  cases holds : r'.watch? with
  | none =>
    rw [holds] at opens
    exact .unopened (never_later never opens) holds frames
  | some w =>
    -- The changes begin with those behind this move, and there are none yet.
    rw [holds, Option.isSome_some] at opens
    have opened : ∃ o ∈ past ++ [(⟨s, e, .task (.runner id)⟩ : Occasion)],
        o.opensWatch id = true := ⟨_, List.mem_append_right _ List.mem_cons_self, opens⟩
    obtain ⟨phase, rfl⟩ := steps.phase
    -- Opening a watch is the only one of these steps that ends with a new one.
    cases uses with
    | @opened credentials h' answer _ got =>
      have after : hub.after [.openWatch (.live r.kind r.project) credentials] = h' := by
        simp [Hub.after, Hub.act, answer]
      have none : changesSince id r.kind (past ++ [⟨s, e, .task (.runner id)⟩]) = [] := by
        rw [changesSince_never r.kind never, changesSince, if_pos opens]
        rfl
      rw [after]
      exact .fresh fresh answer opened none got frames nothing
    | nothing same =>
      rw [holds, without] at same
      cases same
    | read held _ =>
      rw [without] at held
      cases held
    | left gone =>
      rw [gone] at holds
      cases holds
    | ended _ gone =>
      rw [gone] at holds
      cases holds

/-- How a runner with a watch stands: what the watch has yielded is on the connection or about to
be. -/
structure Carries (past : List Occasion) (s : Session) (hub : Hub) (id : Nat) (r : Runner) (w : Nat)
    (x : Watch) (received : List Event) : Prop where
  opened : ∃ o ∈ past, o.opensWatch id = true
  held : r.watch? = some w
  there : hub.watch? w = some x
  asked : x.request = .live r.kind r.project
  follows : x.Follows (hub.feed r.kind) [] (changesSince id r.kind past) received
  sent : s.framesOf id ++ r.unsent = Event.frames r.kind received

namespace Carries

variable {room id w : Nat} {o : Occasion} {hub hub' : Hub} {r r' : Runner} {x : Watch}
  {received : List Event} {f : Option SessionFailure}

/-- What it has put on the connection is of what is due. -/
theorem bounded (carries : Carries past s hub id r w x received) :
    s.framesOf id <+: Event.frames r.kind
      ((WatchRequest.live r.kind r.project).select (changesSince id r.kind past)) := by
  have first := carries.follows.frames_prefix carries.sent
  rwa [carries.asked] at first

/-- Its watch has nothing to replay. -/
theorem plain (carries : Carries past s hub id r w x received) : x.replay = [] :=
  carries.follows.plain (by rw [carries.asked]; rfl)

/-- A step of the runner changes no resource. -/
theorem changes (carries : Carries past s hub id r w x received) :
    changesSince id r.kind (past ++ [⟨s, e, .task (.runner id)⟩]) =
      changesSince id r.kind past := by
  rw [changesSince_opened r.kind carries.opened]
  exact List.append_nil _

/-- A runner that stops in its step has put on the connection what it had put there before. -/
theorem stops (carries : Carries past s hub id r w x received)
    (scope : r'.kind = r.kind ∧ r'.project = r.project) (frames : s'.framesOf id = s.framesOf id)
    (ended : r'.isRunning = false)
    (why : StopsShort room (past ++ [⟨s, e, .task (.runner id)⟩]) s' id r') :
    Standing room (past ++ [⟨s, e, .task (.runner id)⟩]) s' hub' id r' := by
  -- What was sent so far is due, and stays so.
  refine .stopped (opened_later carries.opened _) ended ?_ why
  rw [frames, scope.1, scope.2, carries.changes]
  exact carries.bounded

/-- A runner that goes on with its watch loses nothing of what that yields. -/
theorem goes {x' : Watch} {more : List Event} (carries : Carries past s hub id r w x received)
    (scope : r'.kind = r.kind ∧ r'.project = r.project) (held : r'.watch? = some w)
    (there : hub'.watch? w = some x') (request : x'.request = x.request)
    (follows : x'.Follows (hub'.feed r.kind) [] (changesSince id r.kind past) (received ++ more))
    (sent : s'.framesOf id ++ r'.unsent =
      s.framesOf id ++ r.unsent ++ Event.frames r.kind more) :
    Standing room (past ++ [⟨s, e, .task (.runner id)⟩]) s' hub' id r' := by
  -- What was read is sent or still to be sent, and so it is after the step.
  rw [carries.sent, ← Event.frames_append, ← scope.1] at sent
  rw [← carries.changes, ← scope.1] at follows
  rw [carries.asked, ← scope.1, ← scope.2] at request
  exact .carrying (opened_later carries.opened _) held there request follows sent

/-- What a runner that reads from its watch does: it takes an event up to report it or reads past
what is out of its scope, and nothing is lost, or it has fallen behind. -/
theorem consumed {o o' : Outlet} (carries : Carries past s hub id r w x received)
    (waits : r.phase = .streaming w) (catalog : e.catalog? = some hub)
    (consumes : r.consume o { e with source := (e.source.read e.now w).2 } w
      (e.source.read e.now w).1 = some (r', o', e', f)) :
    (∃ hub' x' more, e'.catalog? = some hub' ∧ hub'.watch? w = some x' ∧
      x'.request = x.request ∧
      x'.Follows (hub'.feed r.kind) [] (changesSince id r.kind past) (received ++ more) ∧
      r'.watch? = some w ∧ o'.sent = o.sent ∧ r'.unsent = Event.frames r.kind more) ∨
    r'.phase = .finished .streamFailed ∧ o' = o ∧
      hub.room < (hub.feed r.kind).log.size - x.position := by
  have follows := carries.follows
  obtain ⟨x', after, reads⟩ := Hub.read_reads carries.there follows.live
  have kind : x.request.kind = r.kind := by rw [carries.asked]; rfl
  have read := Surroundings.catalog?_read catalog e.now w
  have feed : (hub.read w).2.feed r.kind = hub.feed r.kind :=
    congrArg (·.get r.kind) (hub.read_frame w).1
  have idle : r.unsent = [] := by simp [Runner.unsent, waits]
  rw [Surroundings.reading_eq catalog] at consumes
  rw [kind] at reads
  have request := reads.request
  have follows' := reads.follows follows
  generalize (hub.read w).1 = item at reads consumes follows'
  -- What the watch yields decides what the runner does.
  cases reads with
  | replayed first =>
    -- A watch without a replay has nothing to replay.
    rw [carries.plain] at first
    cases first
  | @published event behind done near found =>
    have follows' := follows' follows.live
    -- The event is one of those made since the watch was opened, so it is reported.
    have member : event ∈ changesSince id r.kind past := by
      have owed := (Feed.nextInScope_some found).2.2
      have balance := follows.balance
      rw [Watch.owed, owed] at balance
      have selected : event ∈ x.request.select (changesSince id r.kind past) := by
        rw [List.nil_append] at balance
        rw [← balance]
        simp
      exact (List.mem_filter.mp selected).1
    obtain ⟨op, -, frame⟩ := changesSince_frame member
    obtain ⟨m, reports, -⟩ := Option.map_eq_some_iff.mp frame
    simp only [WatchItem.reading, Runner.consume, reports] at consumes
    cases consumes
    refine .inl ⟨_, _, [event], read, after, request, ?_, rfl, rfl,
      (Event.frames_singleton reports).symm⟩
    rw [feed]
    exact follows'
  | idle done near missing which =>
    -- What was passed over is out of scope, so nothing was due of it.
    have follows' := follows' follows.live
    rcases which with rfl | rfl
    · cases consumes
    · cases consumes
      refine .inl ⟨_, _, [], read, after, request, ?_, carries.held, rfl, idle⟩
      rw [feed]
      exact follows'
  | lagged done far =>
    -- A watch that has fallen behind makes its runner stop.
    cases consumes
    exact .inr ⟨rfl, rfl, far⟩

/-- The step of a runner that reads from its watch. -/
private theorem step_consumed {o' : Outlet} (carries : Carries past s hub id r w x received)
    (catalog : e.catalog? = some hub) (catalog' : e'.catalog? = some hub')
    (scope : r'.kind = r.kind ∧ r'.project = r.project) (outlet : s'.outlet = o')
    (waits : r.phase = .streaming w)
    (consumes : r.consume s.outlet { e with source := (e.source.read e.now w).2 } w
      (e.source.read e.now w).1 = some (r', o', e', f)) :
    Standing hub.room (past ++ [⟨s, e, .task (.runner id)⟩]) s' hub' id r' := by
  have idle : r.unsent = [] := by simp [Runner.unsent, waits]
  rcases carries.consumed waits catalog consumes with
    ⟨read, x', more, drawn, there, request, follows, held, kept, unsent⟩ |
      ⟨ended, kept, far⟩
  · -- What it has read is the next to go on the connection.
    obtain rfl := Option.some.inj (catalog'.symm.trans drawn)
    refine carries.goes scope held there request follows ?_
    rw [framesOf, outlet, Outlet.sentBy_of_sent kept, unsent, idle, List.append_nil]
    rfl
  · -- What it has read is on the connection, and the rest is more than there is room for.
    have frames : s'.framesOf id = s.framesOf id := by rw [framesOf, outlet, kept]; rfl
    refine carries.stops scope frames (by simp [Runner.isRunning, ended]) ?_
    obtain ⟨before, unread, split, count, -, all⟩ := carries.follows.split carries.plain
    have sent := carries.sent
    rw [idle, List.append_nil, all, List.nil_append, carries.asked] at sent
    rw [← frames, ← scope.1, ← scope.2] at sent
    rw [← scope.1] at split
    exact .lagged ended rfl rfl split (count ▸ far) sent

/-- The step of a runner that writes a report and goes on with its watch. -/
private theorem step_wrote {o' : Outlet} (carries : Carries past s hub id r w x received)
    (scope : r'.kind = r.kind ∧ r'.project = r.project) (outlet : s'.outlet = o')
    (held : r'.watch? = some w)
    (sent : o'.sentBy (.runner id) ++ r'.unsent = s.framesOf id ++ r.unsent) :
    Standing room (past ++ [⟨s, e, .task (.runner id)⟩]) s' hub id r' := by
  -- Nothing is read while a frame is written.
  have follows : x.Follows (hub.feed r.kind) [] (changesSince id r.kind past) (received ++ []) := by
    rw [List.append_nil]
    exact carries.follows
  refine carries.goes scope held carries.there rfl follows ?_
  rw [framesOf, outlet, sent]
  exact (List.append_nil _).symm

/-- The step of a runner that has its watch: what the watch yields goes on the connection, or the
runner stops and it is known why. -/
theorem step (carries : Carries past s hub id r w x received) (numbered : s.Numbered)
    (catalog : e.catalog? = some hub) (catalog' : e'.catalog? = some hub')
    (found : s.runners[id]? = some r)
    (steps : r.Steps s.outlet e s.credentials (s.isTold r) (r', s'.outlet, e', f))
    (told : s.isTold r = true → s'.isTold r' = true) :
    Standing hub.room (past ++ [⟨s, e, .task (.runner id)⟩]) s' hub' id r' := by
  have held := carries.held
  obtain ⟨phase, same⟩ := steps.phase
  have scope : r'.kind = r.kind ∧ r'.project = r.project := same ▸ ⟨rfl, rfl⟩
  have number : r.id = id := numbered id r found
  -- The outlet after the step is named, so that the cases can put it in place.
  obtain ⟨o', outlet⟩ : ∃ o', s'.outlet = o' := ⟨_, rfl⟩
  have frames : s'.framesOf id = o'.sentBy (.runner id) := by rw [framesOf, outlet]
  rw [outlet] at steps
  generalize whole : (r', o', e', f) = change at steps
  cases steps with
  -- A runner that is still to open its watch holds none.
  | toldFirst spawned _ => simp [Runner.watch?, spawned] at held
  | opened spawned _ => simp [Runner.watch?, spawned] at held
  | told _ stopped =>
    cases whole
    exact carries.stops scope frames rfl (.told (.inl rfl) (told stopped))
  | @consumed v _ waits untold consumes =>
    subst whole
    obtain rfl : v = w := by simpa [Runner.watch?, waits] using held
    exact carries.step_consumed catalog catalog' scope outlet waits consumes
  | @wrote v m stage stage' _ forwards writes =>
    -- The report goes on the connection, or the runner still has it.
    cases whole
    obtain rfl := Option.some.inj (catalog.symm.trans catalog')
    have writes := Outlet.stepWrite_writes writes
    rw [number] at writes
    refine carries.step_wrote scope outlet ?_ ?_
    · rw [← held]
      simp [Runner.watch?, forwards]
    · show o'.sentBy (.runner id) ++ stage'.unsent (.message m) = _
      rw [writes.sentBy_on, Runner.unsent, forwards]
      rfl
  | @forwarded v m stage _ _ forwards writes =>
    -- The report was on the connection before the flush, so nothing is left of it.
    cases whole
    obtain rfl := Option.some.inj (catalog.symm.trans catalog')
    have writes := Outlet.stepWrite_writes writes
    rw [number] at writes
    refine carries.step_wrote scope outlet ?_ ?_
    · rw [← held]
      simp [Runner.watch?, forwards]
    · show o'.sentBy (.runner id) ++ [] = _
      rw [List.append_nil, writes.sentBy_done, Runner.unsent, forwards]
      rfl
  | @failed v m stage _ _ forwards writes =>
    -- A write that fails is one of the runner's own.
    cases whole
    have own : s.errand (.runner id) = some (.write (.message m) stage) := by
      simp [errand, found, Runner.errand?, forwards]
    rw [number] at writes
    have fails : Occasion.failsWrite ⟨s, e, .task (.runner id)⟩ = true :=
      failsWrite_of rfl own writes
    have writes := Outlet.stepWrite_writes writes
    have last :
        (⟨s, e, .task (.runner id)⟩ : Occasion) ∈ past ++ [⟨s, e, .task (.runner id)⟩] :=
      List.mem_append_right _ List.mem_cons_self
    exact carries.stops scope (frames.trans writes.sentBy_failed) rfl
      (.failed rfl ⟨_, last, rfl, fails⟩)

end Carries

/-! ### What holds along runs -/

/-- Whether a move leaves the backend to those who use it. -/
def Occasion.IsSteady (o : Occasion) : Prop :=
  ∀ env, o.move = .outside env → env.source.backend = o.env.source.backend

/-- What is known of the runners of a session and of the catalog they watch. -/
structure Forwards (room : Nat) (past : List Occasion) (s : Session) (hub : Hub) : Prop where
  keeps : hub.room = room
  holding : s.Holding hub
  sound : s.Sound
  draining : ∀ deadline, s.loop = .draining deadline → s.cancelled = true
  /-- A runner that is still to be started has done nothing. -/
  unborn : ∀ id, s.runners[id]? = none →
    (∀ o ∈ past, o.opensWatch id = false) ∧ s.framesOf id = []
  standing : ∀ id r, s.runners[id]? = some r → Standing room past s hub id r

/-- At the start of a session there is no runner. -/
theorem Begins.forwards (begins : Begins s) {hub : Hub} (fresh : hub.Fresh) :
    Forwards hub.room [] s hub := by
  -- There are no runners, and nothing is on the connection.
  have sent : s.outlet.sent = [] := by cases begins <;> rfl
  refine ⟨rfl, begins.holding fresh, begins.sound, fun deadline drains => ?_, fun id _ => ?_,
    fun id r found => ?_⟩
  · cases begins <;> cases drains
  · exact ⟨fun o member => (by cases member), by rw [framesOf, Outlet.sentBy, sent]; rfl⟩
  · simp [begins.runners] at found

/-- A runner that is still to be started after a move is so before it, and has done nothing in
it. -/
theorem Forwards.unborn_step {room : Nat} {hub : Hub} {m : Move} (held : Forwards room past s hub)
    (moved : s.move e m = some (s', e')) {id : Nat} (missing : s'.runners[id]? = none) :
    (∀ o ∈ past ++ [(⟨s, e, m⟩ : Occasion)], o.opensWatch id = false) ∧
    s'.framesOf id = [] := by
  have moves := move_moves moved
  -- Runners are never taken out, so a place that is free now was free before.
  have before := moves.missing held.sound.numbered missing
  obtain ⟨never, sent⟩ := held.unborn id before
  have same := moves.framesOf held.sound.numbered (ne_task_of_missing moved before)
  refine ⟨never_later never ?_, same.trans sent⟩
  simp [opensWatch_of moved, watchOf, missing]

/-- Every move keeps that. -/
theorem Forwards.step {room : Nat} {hub : Hub} {m : Move} (held : Forwards room past s hub)
    (moved : s.move e m = some (s', e')) (catalog : e.catalog? = some hub)
    (steady : Occasion.IsSteady ⟨s, e, m⟩) :
    ∃ hub', e'.catalog? = some hub' ∧ Forwards room (past ++ [⟨s, e, m⟩]) s' hub' := by
  -- Every runner was there before or is new, and each goes on from where it stood.
  have moves := move_moves moved
  have numbered := held.sound.numbered
  obtain ⟨actions, catalog', draws⟩ := moves.draws numbered held.holding catalog steady
  refine ⟨_, catalog', (hub.after_frame actions).1.trans held.keeps, draws.holding held.holding,
    moves.sound held.sound, moves.draining held.draining, fun _ => held.unborn_step moved, ?_⟩
  intro id r' found'
  rcases moves.accounts numbered held.draining id r' found' with ⟨missing, spawned, other⟩ |
    ⟨r, found, fate⟩
  · -- A new runner has no watch, and has put nothing on the connection.
    obtain ⟨never, sent⟩ := held.unborn id missing
    have without : r'.watch? = none := by simp [Runner.watch?, spawned]
    refine .unopened (never_later never ?_) without ((moves.framesOf numbered other).trans sent)
    simp [opensWatch_of moved, watchOf, found', without]
  · -- A runner that was there takes a step, or goes on as it was, or is stopped.
    have standing := held.standing id r found
    have scope := fate.scope
    have told := fate.told
    cases fate with
    | @stepped f own steps _ =>
      subst own
      cases standing with
      | unopened never without sent =>
        exact .begins never without sent moved catalog catalog' held.holding.fresh found
          found' steps
      | @carrying w x received opened has there asked follows sent =>
        obtain rfl := held.keeps
        have carries : Carries past s hub id r w x received :=
          ⟨opened, has, there, asked, follows, sent⟩
        exact carries.step numbered catalog catalog' found steps told
      | stopped _ ended _ _ =>
        -- A runner that has stopped takes no step.
        have runs := steps.running
        rw [ended] at runs
        cases runs
    | kept other same _ =>
      have phase := Runner.phase_of_core same
      exact standing.kept moved numbered held.holding draws found found' other scope told phase
    | stopped other ran same now =>
      exact standing.aborted moved numbered draws found found' other scope ran (same ▸ rfl) now

/-- It holds after every run in which the catalog is left to those who use it. -/
theorem Run.forwards (begins : Begins s₀) {hub : Hub} (catalog : e₀.catalog? = some hub)
    (fresh : hub.Fresh) (run : Run s₀ e₀ past s e) (steady : ∀ o ∈ past, o.IsSteady) :
    ∃ hub', e.catalog? = some hub' ∧ Forwards hub.room past s hub' := by
  refine run.traces (P := fun past s e => (∀ o ∈ past, o.IsSteady) →
    ∃ hub', e.catalog? = some hub' ∧ Forwards hub.room past s hub')
    (fun _ => ⟨hub, catalog, begins.forwards fresh⟩) ?_ steady
  intro past s s' e e' m moved held steady
  -- The moves so far left the catalog to those who use it, and so does the last.
  obtain ⟨hub', catalog', held⟩ := held fun o member => steady o (List.mem_append_left _ member)
  have last := steady _ (List.mem_append_right _ (List.mem_singleton.mpr rfl))
  exact held.step moved catalog' last

/-! ### Runners that wait for their watch -/

/-- A runner that waits for its watch and is told to stop has a step to take. -/
theorem move_of_told {id w : Nat} {r : Runner} (found : s.runners[id]? = some r)
    (waits : r.phase = .streaming w) (told : s.isTold r = true) :
    s.move e (.task (.runner id)) ≠ none := by
  have told : (r.cancelled || s.cancelled) = true := told
  simp [move, step, found, Runner.step, waits, told]

/-- A runner that waits for its watch and is not told to stop reads from it. -/
theorem move_of_untold {id w : Nat} {r : Runner} (found : s.runners[id]? = some r)
    (waits : r.phase = .streaming w) (untold : s.isTold r = false) :
    s.move e (.task (.runner id)) =
      (r.consume s.outlet { e with source := (e.source.read e.now w).2 } w
        (e.source.read e.now w).1).map fun (r', o, e', f) =>
          ({ s with outlet := o, runners := s.runners.set id r', alarms := s.alarms.reportAny f },
            e') := by
  have untold : (r.cancelled || s.cancelled) = false := untold
  simp [move, step, found, Runner.step, waits, untold]

/-- A runner that waits for its watch and has no step to take has nothing left to forward. -/
theorem settled_of_waiting {id w : Nat} {r : Runner} {hub : Hub} {x : Watch}
    (found : s.runners[id]? = some r) (waits : r.phase = .streaming w)
    (catalog : e.catalog? = some hub) (there : hub.watch? w = some x) (live : x.phase = .live)
    (still : s.move e (.task (.runner id)) = none) : x.owed (hub.feed x.request.kind) = [] := by
  have untold : s.isTold r = false :=
    Bool.eq_false_iff.mpr fun told => move_of_told found waits told still
  rw [move_of_untold found waits untold, Option.map_eq_none_iff,
    Surroundings.reading_eq catalog] at still
  -- The only reading that leaves a runner waiting is that nothing is there.
  obtain ⟨x', -, reads⟩ := Hub.read_reads there live
  refine reads.settled (.inl ?_)
  generalize (hub.read w).1 = item at still
  cases item with
  | pending => rfl
  | event c =>
    simp only [WatchItem.reading, Runner.consume] at still
    split at still <;> cases still
  | _ => cases still

/-- A runner that waits for its watch and finds more unread than there is room for fails, without
writing anything. -/
theorem fails_of_lagging {id w : Nat} {r : Runner} {hub : Hub} {x : Watch}
    (found : s.runners[id]? = some r) (waits : r.phase = .streaming w)
    (catalog : e.catalog? = some hub) (there : hub.watch? w = some x) (live : x.phase = .live)
    (done : x.replay = []) (untold : s.isTold r = false)
    (far : hub.room < (hub.feed x.request.kind).log.size - x.position) :
    ∃ s' e' r', s.move e (.task (.runner id)) = some (s', e') ∧ s'.runners[id]? = some r' ∧
      r'.phase = .finished .streamFailed ∧ s'.outlet = s.outlet := by
  -- The runner reads from its watch, and what that yields is that it has fallen behind.
  obtain ⟨x', -, reads⟩ := Hub.read_reads there live
  have moves := move_of_untold (e := e) found waits untold
  rw [Surroundings.reading_eq catalog] at moves
  obtain ⟨inside, -⟩ := List.getElem?_eq_some_iff.mp found
  generalize (hub.read w).1 = item at reads moves
  cases reads with
  | replayed first =>
    rw [done] at first
    cases first
  | published _ near _ => exact absurd far (Nat.not_lt.mpr near)
  | idle _ near _ _ => exact absurd far (Nat.not_lt.mpr near)
  | lagged _ _ =>
    exact ⟨_, _, { r with phase := .finished .streamFailed }, moves, by simp [inside], rfl, rfl⟩

/-- A runner that waits for its watch has reported what that has read.

If it has no step to take, nothing in its scope is left; if it has fallen behind, its next step
fails and writes nothing. -/
theorem Carries.waiting {id w : Nat} {r : Runner} {hub : Hub} {x : Watch} {received : List Event}
    (carries : Carries past s hub id r w x received) (found : s.runners[id]? = some r)
    (waits : r.phase = .streaming w) (catalog : e.catalog? = some hub) :
    ∃ read unread, changesSince id r.kind past = read ++ unread ∧
      s.framesOf id =
        Event.frames r.kind ((WatchRequest.live r.kind r.project).select read) ∧
      (s.move e (.task (.runner id)) = none →
        (WatchRequest.live r.kind r.project).select unread = []) ∧
      (s.isTold r = false → hub.room < unread.length → ∃ s' e' r',
        s.move e (.task (.runner id)) = some (s', e') ∧ s'.runners[id]? = some r' ∧
          r'.phase = .finished .streamFailed ∧ s'.outlet = s.outlet) := by
  have kind : x.request.kind = r.kind := by rw [carries.asked]; rfl
  have live := carries.follows.live
  obtain ⟨read, unread, split, count, rest, all⟩ := carries.follows.split carries.plain
  rw [carries.asked] at rest all
  have idle : r.unsent = [] := by simp [Runner.unsent, waits]
  have sent := carries.sent
  rw [idle, List.append_nil, all] at sent
  -- What is left unread decides whether it waits and whether it falls behind.
  refine ⟨read, unread, split, sent, fun still => ?_, fun untold far => ?_⟩
  · have nothing := settled_of_waiting found waits catalog carries.there live still
    rw [kind, rest] at nothing
    exact nothing
  · refine fails_of_lagging found waits catalog carries.there live carries.plain untold ?_
    rw [kind, ← count]
    exact far

/-- A runner reports the changes made in its scope since it got its watch, in order and gap-free.

Each is reported with the resource as it is.

A runner may stop before it has reported them all.
Then it was told to stop, or failed to write, or found more changes unread than there is room for.
In the last case it reports none of these.

One that waits has reported all it has read.
If it has nothing to do there is nothing more in its scope.
If it has fallen behind it fails. -/
theorem changes_are_forwarded {capacity : Nat} {requireToken : Bool} {history : List HubAction}
    {id : Nat} {r : Runner} (begins : Begins s₀)
    (catalog : e₀.catalog? = some ((Hub.empty capacity requireToken).after history))
    (run : Run s₀ e₀ past s e) (steady : ∀ o ∈ past, o.IsSteady)
    (found : s.runners[id]? = some r) :
    let request := WatchRequest.live r.kind r.project
    let changes := changesSince id r.kind past
    let due := Event.frames r.kind (request.select changes)
    let room := roundUpToPowerOfTwo capacity
    (∀ c ∈ changes, ∃ op, c.change.operation? = some op ∧
      c.frame? r.kind = some (.message ⟨op, .known r.kind, c.project, some c.resource⟩)) ∧
    s.framesOf id <+: due ∧
    (r.isRunning = false → s.framesOf id = due ∨ StopsShort room past s id r) ∧
    ∀ w, r.phase = .streaming w → ∃ read unread, changes = read ++ unread ∧
      s.framesOf id = Event.frames r.kind (request.select read) ∧
      (s.move e (.task (.runner id)) = none → request.select unread = []) ∧
      (s.isTold r = false → room < unread.length → ∃ s' e' r',
        s.move e (.task (.runner id)) = some (s', e') ∧ s'.runners[id]? = some r' ∧
          r'.phase = .finished .streamFailed ∧ s'.outlet = s.outlet) := by
  intro request changes due room
  have frame := (Hub.empty capacity requireToken).after_frame history
  obtain ⟨hub, catalog', held⟩ := run.forwards begins catalog (frame.2.2 fun _ _ => rfl) steady
  have keeps : hub.room = room := held.keeps.trans frame.1
  refine ⟨fun c => changesSince_frame, ?_⟩
  cases held.standing id r found with
  | unopened never without sent =>
    -- Without a watch nothing is due.
    have none : changes = [] := by
      have same := changesSince_never r.kind never []
      rwa [List.append_nil] at same
    have all : s.framesOf id = due := by
      rw [sent, show due = Event.frames r.kind (request.select changes) from rfl, none]
      rfl
    refine ⟨⟨[], (List.append_nil _).trans all⟩, fun _ => .inl all, fun w waits => ?_⟩
    simp [Runner.watch?, waits] at without
  | @carrying w x received opened has there asked follows sent =>
    have carries : Carries past s hub id r w x received :=
      ⟨opened, has, there, asked, follows, sent⟩
    refine ⟨carries.bounded, fun ended => ?_, fun v waits => ?_⟩
    · -- A runner that holds a watch runs.
      unfold Runner.watch? at has
      unfold Runner.isRunning at ended
      split at has <;> simp_all
    · obtain rfl : v = w := by simpa [Runner.watch?, waits] using has
      have waiting := carries.waiting found waits catalog'
      rwa [keeps] at waiting
  | stopped opened ended sent why =>
    -- It has stopped short, and why is known since.
    rw [frame.1] at why
    refine ⟨sent, fun _ => .inr why, fun w waits => ?_⟩
    simp [Runner.isRunning, waits] at ended

/-- A client that subscribes to one project gets what is changed there from then on, and no more. -/
theorem changes_are_forwarded_subscribed :
    let named (name : String) : Json := .object [("name", .string name)]
    let hub := (Hub.empty 4 false).after [.upsert .application "p" (named "a")]
    ∃ past s e r, Run (.start {} default .clear 0 false)
      (.start (.of (.catalog hub))) past s e ∧
      s.runners[0]? = some r ∧
      s.framesOf 0 =
        [.message ⟨.created, .known .application, "p", some (named "c")⟩,
          .message ⟨.deleted, .known .application, "p", some (named "a")⟩] ∧
      s.framesOf 0 <+: Event.frames r.kind
        ((WatchRequest.live r.kind r.project).select (changesSince 0 r.kind past)) := by
  intro named hub
  let asks : InFrame := .text
    "\x7b\"op\":\"subscribe\",\"kind\":\"Application\",\"project\":\"p\"\x7d"
  let runs : Move := .task (.runner 0)
  let moves : List Move :=
    [.arrive asks, .task .receiver, .task .receiver, .task .eventLoop, .task .eventLoop,
      .task .eventLoop, .task .eventLoop, runs, .catalog (.upsert .application "q" (named "b")),
      .catalog (.upsert .application "p" (named "c")), runs, runs, runs, runs,
      .catalog (.remove .application "p" "a"), runs, runs, runs, runs]
  have plays : ((play (.start {} default .clear 0 false) (.start (.of (.catalog hub))) moves).any
      fun p => decide (p.2.1.runners[0]?.isSome = true ∧ p.2.1.framesOf 0 =
        [.message ⟨.created, .known .application, "p", some (named "c")⟩,
          .message ⟨.deleted, .known .application, "p", some (named "a")⟩])) = true := by
    decide +kernel
  -- The run is the one that is played, so its frames are known.
  obtain ⟨⟨past, s, e⟩, played, checked⟩ := (Option.any_eq_true _ _).mp plays
  obtain ⟨there, frames⟩ := of_decide_eq_true checked
  obtain ⟨r, found⟩ := Option.isSome_iff_exists.mp there
  have run := Run.of_play played
  -- None of the moves puts anything else in the place of the catalog.
  have steady : ∀ o ∈ past, o.IsSteady := by
    intro o member env same
    have made := List.mem_map_of_mem (f := Occasion.move) member
    rw [Run.moves_of_play played, same] at made
    simp [moves, runs] at made
  have forwarded := changes_are_forwarded (.attended _ _ _ _ _) rfl run steady found
  exact ⟨past, s, e, r, run, found, frames, forwarded.2.1⟩

end Session

end WatchRelay
