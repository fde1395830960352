import WatchRelay.Proofs.Relay.History
import WatchRelay.Proofs.Session.Balances

/-! The counts of a relay: at any time they tell how many sessions there are and were, which of
their runners are active or have failed, what was delivered, and which sessions were ended by a
failure. -/

namespace WatchRelay

/-- The count of a label grows with it, and no other does. -/
theorem Metrics.lookup_increment (label other : String) (counts : List (String × Nat)) :
    ((increment label counts).lookup other).getD 0 =
      (counts.lookup other).getD 0 + if label = other then 1 else 0 := by
  -- The induction is on the counts, through which the label is looked for from the first on.
  induction counts with
  | nil =>
    by_cases same : label = other
    · subst same
      simp [increment]
    · simp [increment, List.lookup_cons, beq_eq_false_iff_ne.mpr (Ne.symm same), same]
  | cons entry rest ih =>
    obtain ⟨first, n⟩ := entry
    unfold increment
    -- The first count is that of the label, or the label is counted further on.
    split
    · next own =>
      subst own
      by_cases same : other = first
      · subst same
        simp
      · simp [List.lookup_cons, beq_eq_false_iff_ne.mpr same, Ne.symm same]
    · next differ =>
      by_cases same : other = first
      · subst same
        simp [Ne.symm differ]
      · simp [List.lookup_cons, beq_eq_false_iff_ne.mpr same, ih]

/-- What is counted of a session. -/
structure Tally where
  name : String
  isClosed : Bool
  /-- Whether the event loop has not left its loop. -/
  isOpen : Bool
  runners : List Runner

/-- What is counted of an attached session. -/
def Attached.tally (a : Attached) : Tally :=
  ⟨a.name, a.session.isClosed, a.session.loop.isOpen, a.session.runners⟩

/-- A call to tear a session down leaves what is counted of it. -/
theorem Attached.tally_beginTeardown (a : Attached) (call now : Nat) (attendance : Attendance) :
    ({ a with session := a.session.beginTeardown call now, attendance } : Attached).tally =
      a.tally := by
  -- A session that is closed stays so, and one that is not does not close by this.
  have closed : (a.session.beginTeardown call now).isClosed = a.session.isClosed := by
    show (a.session.state.advance .closing == .closed) = (a.session.state == .closed)
    cases a.session.state <;> rfl
  simp only [tally, closed]
  rfl

namespace Relay

/-- What is counted of the sessions. -/
def tallies (r : Relay) : List Tally := r.sessions.map Attached.tally

/-- All runners of all sessions. -/
def runners (r : Relay) : List Runner := r.sessions.flatMap fun a => a.session.runners

/-- The kind of the event whose write succeeds in an act. -/
def forwarded? (o : Entry) : Option ResourceKind :=
  match o.move with
  | .move (.session name m) => (o.state.session? name).bind fun s => s.forwards? o.state.env m
  | _ => none

/-- The session whose event loop leaves its loop for a failure in an act, and its category. -/
def failure? (o : Entry) : Option (String × String) :=
  match o.move with
  | .move (.session name m) => (o.state.session? name).bind fun s =>
    (s.leavesFor? m).map fun f => (name, f.category)
  | _ => none

/-- The kinds of the events whose writes have succeeded, in order. -/
def forwarded (past : List Entry) : List ResourceKind := past.filterMap forwarded?

/-- The sessions that were ended by a failure, with its category, in order. -/
def failures (past : List Entry) : List (String × String) := past.filterMap failure?

variable {r r' : Relay} {x : Act} {past : List Entry}

/-! ### What an act is to the counts -/

/-- Whether nothing that is counted changes. -/
structure Rests (r r' : Relay) : Prop where
  tallies : r'.tallies = r.tallies
  metrics : r'.env.metrics = r.env.metrics

namespace Rests

theorem refl (r : Relay) : r.Rests r := ⟨rfl, rfl⟩

theorem trans {r'' : Relay} (first : r.Rests r') (second : r'.Rests r'') : r.Rests r'' :=
  ⟨second.tallies.trans first.tallies, second.metrics.trans first.metrics⟩

/-- Changing a session in what is not counted of it. -/
theorem modifyAttached {name : String} {f : Attached → Attached}
    (same : ∀ a, (f a).tally = a.tally) : r.Rests (r.modifyAttached name f) :=
  ⟨map_modifyAttached same r name, rfl⟩

theorem beginTeardown (r : Relay) (name : String) : r.Rests (r.beginTeardown name).2 := by
  -- The call is noted in the session, and its number is taken.
  have rests : r.Rests (r.modifySession name fun s => s.beginTeardown r.nextCall r.env.now) :=
    .modifyAttached fun a => a.tally_beginTeardown r.nextCall r.env.now a.attendance
  exact ⟨rests.tallies, rests.metrics⟩

theorem beginTeardowns (names : List String) (r : Relay) :
    r.Rests (r.beginTeardowns names).2 := by
  -- The teardowns begin one after the other, and none of them is counted.
  induction names generalizing r with
  | nil => exact .refl r
  | cons name rest ih => exact (beginTeardown r name).trans (ih _)

theorem callUnregister (r : Relay) (tag : Nat) (name : String) :
    r.Rests (r.callUnregister tag name) := by
  -- The session is called to end if it is still in the register, and nothing is counted.
  unfold Relay.callUnregister
  split
  · have rests := beginTeardown { r with registered := r.registered.filter (· != name) } name
    exact ⟨rests.tallies, rests.metrics⟩
  · exact ⟨rfl, rfl⟩

theorem callCloseAll (r : Relay) (tag : Nat) : r.Rests (r.callCloseAll tag) := by
  have rests := beginTeardowns r.registered { r with registered := [] }
  exact ⟨rests.tallies, rests.metrics⟩

theorem returnCalls (r : Relay) : r.Rests r.returnCalls := by
  unfold Relay.returnCalls
  dsimp only
  -- Returning changes the calls alone.
  split
  · exact .refl r
  · exact ⟨rfl, rfl⟩

end Rests

/-- What an act is to the counts: a session starts, or one makes a move of its own, or nothing that
is counted changes. -/
inductive Counts (r : Relay) (x : Act) (r' : Relay) : Prop where
  | rests (rests : r.Rests r') (silent : ∀ name m, x ≠ .move (.session name m)) : Counts r x r'
  | started {a : Attached} (fresh : a.name ∉ r.names) (begins : Session.Begins a.session)
      (sessions : r'.sessions = r.sessions ++ [a])
      (metrics : r'.env.metrics = r.env.metrics.sessionStarted)
      (silent : ∀ name m, x ≠ .move (.session name m)) : Counts r x r'
  | moved {before after : List Attached} {a : Attached} {s' : Session} {m : Session.Move}
      (own : x = .move (.session a.name m)) (quiet : m.isOwn = true)
      (found : r.session? a.name = some a.session)
      (sessions : r.sessions = before ++ a :: after)
      (sessions' : r'.sessions = before ++ { a with session := s' } :: after)
      (moved : a.session.move r.env m = some (s', r'.env)) : Counts r x r'

/-- The session that moves stands alone under its name, and the others stay as they are. -/
theorem modifySession_split (hosts : r.Hosts) {name : String} {s : Session}
    (found : r.session? name = some s) (s' : Session) : ∃ before a after,
      a.name = name ∧ a.session = s ∧ r.sessions = before ++ a :: after ∧
      (r.modifySession name fun _ => s').sessions =
        before ++ { a with session := s' } :: after := by
  obtain ⟨a, there, rfl⟩ := Option.map_eq_some_iff.mp found
  obtain rfl : a.name = name := by simpa using List.find?_some there
  -- It stands somewhere among the sessions, and its name neither before nor behind it.
  obtain ⟨before, after, split⟩ := List.append_of_mem (List.mem_of_find?_eq_some there)
  have distinct := hosts.distinct
  rw [Relay.names, split, List.map_append, List.map_cons] at distinct
  obtain ⟨-, others, apart⟩ := List.nodup_append.mp distinct
  refine ⟨before, a, after, rfl, rfl, split, ?_⟩
  have same (l : List Attached) (other : ∀ b ∈ l, b.name ≠ a.name) :
      (l.map fun b => if b.name = a.name then { b with session := s' } else b) = l := by
    refine (List.map_congr_left fun b among => ?_).trans (List.map_id l)
    exact if_neg (other b among)
  show (r.sessions.map _) = _
  rw [split, List.map_append, List.map_cons, if_pos rfl, same before, same after]
  · exact fun b among own =>
      (List.nodup_cons.mp others).1 (own ▸ List.mem_map_of_mem among)
  · exact fun b among => apart _ (List.mem_map_of_mem among) _ (List.mem_cons_self ..)

/-- What every act is to the counts, if others leave them alone. -/
theorem act_counts (hosts : r.Hosts) (acted : r.act x = some r')
    (others : ∀ env, x = .move (.outside env) → env.metrics = r.env.metrics) :
    r.Counts x r' := by
  cases act_acts acted with
  | started fresh begins _ | connected fresh begins _ =>
    exact .started fresh begins rfl rfl (by simp)
  | @added a attended _ _ =>
    have rests : (r.register a.name).Rests (r.adopting a.name attended) :=
      .modifyAttached fun _ => rfl
    exact .rests ⟨rests.tallies, rests.metrics⟩ (by simp)
  | @moved name s s' m env own found moved =>
    -- One session moves, and the counts with it.
    obtain ⟨before, a, after, rfl, rfl, sessions, sessions'⟩ :=
      modifySession_split hosts found s'
    exact .moved rfl own found sessions sessions' moved
  | @left a found _ _ _ =>
    -- The session is called to be torn down, and its task waits for that.
    have rests := Rests.beginTeardown { r with registered := r.registered.filter (· != a.name) }
      a.name
    have waits := map_modifyAttached (g := Attached.tally)
      (f := fun b => { b with attendance := .removing r.nextCall }) fun _ => rfl
    exact .rests ⟨(waits _ _).trans rests.tallies, rests.metrics⟩ (by simp)
  | parted _ _ => exact .rests (.modifyAttached fun _ => rfl) (by simp)
  | shutdown =>
    refine .rests ⟨?_, rfl⟩ (by simp)
    simp only [tallies, Relay.shutdown, List.map_map]
    exact List.map_congr_left fun _ _ => rfl
  | @teardown tag name _ =>
    have rests := Rests.beginTeardown r name
    exact .rests ⟨rests.tallies, rests.metrics⟩ (by simp)
  | unregister _ => exact .rests (.callUnregister r ..) (by simp)
  | closeAll _ => exact .rests (.callCloseAll r _) (by simp)
  | returnCalls => exact .rests (.returnCalls r) (by simp)
  | outside env => exact .rests ⟨rfl, others env rfl⟩ (by simp)

/-! ### The counts and what they count -/

/-- What the counts tell of sessions with what is counted of them, of what was forwarded, and of the
sessions that were ended by a failure. -/
structure Balanced (sessions : List Tally) (m : Metrics) (forwarded : List ResourceKind)
    (failures : List (String × String)) : Prop where
  total : m.sessionsTotal = sessions.length
  active : m.sessionsActive + sessions.countP Tally.isClosed = sessions.length
  running : m.subscriptionsActive = (sessions.flatMap Tally.runners).countP Runner.isActive
  forwarded : ∀ k, m.forwarded.get k = forwarded.count k
  failed : ∀ k, m.runnerFailures.get k =
    (sessions.flatMap Tally.runners).countP (Runner.isFailedOf k)
  errors : ∀ c, (m.sessionErrors.lookup c).getD 0 = (failures.map (·.2)).count c

/-- A session is ended by a failure once at most, for its event loop has left its loop then. -/
structure EndedOnce (sessions : List Tally) (failures : List (String × String)) : Prop where
  once : (failures.map (·.1)).Nodup
  left : ∀ name ∈ failures.map (·.1), ∃ t ∈ sessions, t.name = name ∧ t.isOpen = false

section

variable {sessions before after : List Tally} {m : Metrics} {kinds : List ResourceKind}
  {fails : List (String × String)} {t : Tally} {a : Attached} {s' : Session} {e e' : Surroundings}
  {n : Session.Move}

/-- A session that starts is counted, and is not closed and has no runners. -/
theorem Balanced.started (balanced : Balanced sessions m kinds fails)
    (unclosed : t.isClosed = false) (bare : t.runners = []) :
    Balanced (sessions ++ [t]) m.sessionStarted kinds fails where
  -- The new session is counted, is not closed and has no runners.
  total := by
    rw [List.length_append, ← balanced.total]
    rfl
  active := by
    have active := balanced.active
    simp only [Metrics.sessionStarted, List.countP_append, List.countP_singleton, unclosed,
      List.length_append, List.length_singleton]
    simp
    omega
  running := by simpa [bare, Metrics.sessionStarted] using balanced.running
  forwarded := balanced.forwarded
  failed := by simpa [bare, Metrics.sessionStarted] using balanced.failed
  errors := balanced.errors

/-- A session that makes a move of its own stays in balance with the counts. -/
theorem Balanced.moved (balanced : Balanced (before ++ a.tally :: after) e.metrics kinds fails)
    (balances : a.session.Balances e n s' e') :
    Balanced (before ++ ({ a with session := s' } : Attached).tally :: after) e'.metrics
      (kinds ++ (a.session.forwards? e n).toList)
      (fails ++ ((a.session.leavesFor? n).map fun f => (a.name, f.category)).toList) := by
  refine ⟨?_, ?_, ?_, fun k => ?_, fun k => ?_, fun c => ?_⟩
  · rw [balances.total, balanced.total]
    simp only [List.length_append, List.length_cons]
  · -- The session itself is closed by the move, or it is not, and the others are as they were.
    have sessions := balances.sessions
    have active := balanced.active
    simp only [List.countP_append, List.countP_cons, List.length_append, List.length_cons,
      Attached.tally] at active ⊢
    split at sessions <;> split at sessions <;> simp_all <;> omega
  -- A runner that ends in the move was active before it.
  · have runs := balances.active
    have running := balanced.running
    simp only [List.flatMap_append, List.flatMap_cons, List.countP_append, Attached.tally]
      at running ⊢
    omega
  · -- At most one event is delivered in a move.
    rw [balances.forwarded, balanced.forwarded, List.count_append]
    cases a.session.forwards? e n with
    | none => simp
    | some kind => simp [List.count_singleton]
  -- A runner that fails is counted for its kind in the same move.
  · have fails := balances.failed k
    have failed := balanced.failed k
    simp only [List.flatMap_append, List.flatMap_cons, List.countP_append, Attached.tally]
      at failed ⊢
    omega
  -- A session ends for at most one failure in a move.
  · rw [balances.errors, List.map_append, List.count_append, ← balanced.errors c]
    cases a.session.leavesFor? n with
    | none => simp
    | some f => simp [Metrics.lookup_increment, List.count_singleton]

theorem EndedOnce.started (ended : EndedOnce sessions fails) (t : Tally) :
    EndedOnce (sessions ++ [t]) fails where
  -- Who has ended is still there.
  once := ended.once
  left name among := by
    obtain ⟨t, there, own⟩ := ended.left name among
    exact ⟨t, List.mem_append_left _ there, own⟩

/-- A session whose event loop has left its loop is not ended by another failure. -/
theorem EndedOnce.moved (ended : EndedOnce (before ++ a.tally :: after) fails)
    (distinct : ((before ++ a.tally :: after).map Tally.name).Nodup)
    (left : a.session.loop.isOpen = false →
      s'.loop.isOpen = false ∧ a.session.leavesFor? n = none)
    (leaves : a.session.leavesFor? n ≠ none → s'.loop.isOpen = false) :
    EndedOnce (before ++ ({ a with session := s' } : Attached).tally :: after)
      (fails ++ ((a.session.leavesFor? n).map fun f => (a.name, f.category)).toList) := by
  have own : a.tally ∈ before ++ a.tally :: after :=
    List.mem_append_right _ (List.mem_cons_self ..)
  -- The sessions that were ended before are there still.
  have stays (name : String) (old : name ∈ fails.map (·.1)) :
      ∃ t ∈ before ++ ({ a with session := s' } : Attached).tally :: after,
        t.name = name ∧ t.isOpen = false := by
    obtain ⟨t, there, same, gone⟩ := ended.left name old
    rcases List.mem_append.mp there with first | rest
    · exact ⟨t, List.mem_append_left _ first, same, gone⟩
    · rcases List.mem_cons.mp rest with rfl | last
      · exact ⟨_, List.mem_append_right _ (List.mem_cons_self ..), same, (left gone).1⟩
      · exact ⟨t, List.mem_append_right _ (List.mem_cons_of_mem _ last), same, gone⟩
  cases failing : a.session.leavesFor? n with
  | none =>
    simp only [Option.map_none, Option.toList_none, List.append_nil]
    exact ⟨ended.once, stays⟩
  | some f =>
    simp only [Option.map_some, Option.toList_some]
    constructor
    · rw [List.map_append]
      refine List.nodup_append.mpr ⟨ended.once, by simp, fun name old other new same => ?_⟩
      -- If this session had been ended before, its loop could not be left once more.
      obtain ⟨t, there, named, gone⟩ := ended.left name old
      obtain rfl : other = a.name := by simpa using new
      obtain rfl : t = a.tally :=
        List.inj_on_of_nodup_map distinct there own (named.trans same)
      have calm := (left gone).2
      rw [failing] at calm
      cases calm
    · intro name among
      rw [List.map_append, List.mem_append] at among
      rcases among with old | new
      · exact stays name old
      · obtain rfl : name = a.name := by simpa using new
        exact ⟨_, List.mem_append_right _ (List.mem_cons_self ..), rfl,
          leaves (by simp [failing])⟩

end

/-! ### Histories -/

/-- Nothing is forwarded or fails where no session makes a move of its own. -/
theorem told_nothing (silent : ∀ name m, x ≠ .move (.session name m)) :
    forwarded? ⟨r, x⟩ = none ∧ failure? ⟨r, x⟩ = none := by
  -- Only a move of a session tells anything.
  unfold forwarded? failure?
  constructor
  · split
    · next name m same => exact absurd same (silent name m)
    · rfl
  · split
    · next name m same => exact absurd same (silent name m)
    · rfl

/-- Every act keeps the counts in balance with what they count. -/
theorem Counts.conserves (hosts : r.Hosts) (counts : r.Counts x r')
    (balanced : Balanced r.tallies r.env.metrics (forwarded past) (failures past))
    (ended : EndedOnce r.tallies (failures past)) :
    Balanced r'.tallies r'.env.metrics (forwarded (past ++ [⟨r, x⟩]))
      (failures (past ++ [⟨r, x⟩])) ∧
    EndedOnce r'.tallies (failures (past ++ [⟨r, x⟩])) := by
  rw [forwarded, failures, Trace.filterMap_concat, Trace.filterMap_concat]
  -- What is forwarded or fails comes of a session's own move, and of nothing else.
  cases counts with
  | rests rests silent =>
    obtain ⟨none, nobody⟩ := told_nothing (r := r) silent
    rw [none, nobody, rests.tallies, rests.metrics]
    simpa using ⟨balanced, ended⟩
  | @started a fresh begins sessions metrics silent =>
    obtain ⟨none, nobody⟩ := told_nothing (r := r) silent
    have tallies : r'.tallies = r.tallies ++ [a.tally] := by simp [Relay.tallies, sessions]
    rw [none, nobody, tallies, metrics]
    have balanced := balanced.started (t := a.tally) begins.isClosed begins.runners
    simpa using ⟨balanced, ended.started a.tally⟩
  | @moved before after a s' m own quiet found sessions sessions' moved =>
    -- The session that moves does so in a run of its own.
    obtain ⟨s₀, e₀, past', begins, run⟩ := hosts.lives a (by simp [sessions])
    have inside : ∀ env, m ≠ .outside env := by
      rintro env rfl
      cases quiet
    have balances := run.balances begins inside moved
    obtain ⟨left, leaves⟩ := (Session.move_moves moved).left_for (run.sound begins).numbered
    have forwards : forwarded? ⟨r, x⟩ = a.session.forwards? r.env m := by
      simp only [forwarded?, own, found, Option.bind_some]
    have fails : failure? ⟨r, x⟩ = (a.session.leavesFor? m).map fun f =>
        (a.name, f.category) := by
      simp only [failure?, own, found, Option.bind_some]
    have tallies : r.tallies =
        before.map Attached.tally ++ a.tally :: after.map Attached.tally := by
      simp [Relay.tallies, sessions]
    have tallies' : r'.tallies = before.map Attached.tally ++
        ({ a with session := s' } : Attached).tally :: after.map Attached.tally := by
      simp [Relay.tallies, sessions']
    have distinct : (r.tallies.map Tally.name).Nodup := by
      rw [Relay.tallies, List.map_map]
      exact hosts.distinct
    rw [tallies] at balanced ended distinct
    rw [forwards, fails, tallies']
    exact ⟨balanced.moved balances, ended.moved distinct left leaves⟩

/-- Along every history in which others leave the counts alone, they are in balance. -/
theorem balanced_of_trace {config : Config} {source : Source}
    (run : Trace act (new config source) past r)
    (others : ∀ o ∈ past, ∀ env, o.move = .move (.outside env) →
      env.metrics = o.state.env.metrics) :
    Balanced r.tallies r.env.metrics (forwarded past) (failures past) ∧
      EndedOnce r.tallies (failures past) := by
  induction run with
  | start =>
    -- Without sessions nothing is counted yet.
    refine ⟨⟨rfl, rfl, rfl, fun k => ?_, fun k => ?_, fun c => rfl⟩, ⟨.nil, nofun⟩⟩
    · exact PerKind.get_const 0 k
    · exact PerKind.get_const 0 k
  | next run acted ih =>
    obtain ⟨balanced, ended⟩ := ih fun o among => others o (List.mem_append_left _ among)
    have hosts := hosts_of_trace run
    refine (act_counts hosts acted fun env outside => ?_).conserves hosts balanced ended
    exact others _ (List.mem_append_right _ (List.mem_singleton_self _)) env outside

/-- At any time the gauges and counters of a relay tell what is the case with its sessions.

This holds however sessions start, go on, fail, lose their clients and are torn down.

The relay counts as active all sessions that have started and are not closed.
It counts as active all runners that have begun and are not gone.

It has counted each event whose write has succeeded.
It has counted each runner that was ended by a failure of its backend.
It has counted each session that was ended by a failure, which none is twice.

No gauge is ever negative, and each is at zero when all that it counts is over. -/
theorem counts_are_conserved {config : Config} {source : Source}
    (run : Trace act (new config source) past r)
    (others : ∀ o ∈ past, ∀ env, o.move = .move (.outside env) →
      env.metrics = o.state.env.metrics) :
    let m := r.env.metrics
    m.sessionsTotal = r.sessions.length ∧
    m.sessionsActive = m.sessionsTotal - r.sessions.countP (fun a => a.session.state = .closed) ∧
    m.subscriptionsActive = r.runners.countP Runner.isActive ∧
    (∀ kind, m.forwarded.get kind = (forwarded past).count kind) ∧
    (∀ kind, m.runnerFailures.get kind = r.runners.countP fun x =>
      (x.phase = .finished .openFailed ∨ x.phase = .finished .streamFailed) ∧ x.kind = kind) ∧
    (∀ category, (m.sessionErrors.lookup category).getD 0 =
      ((failures past).map (·.2)).count category) ∧
    ((failures past).map (·.1)).Nodup ∧
    (∀ name ∈ (failures past).map (·.1), name ∈ r.names) ∧
    0 ≤ m.sessionsActive ∧ 0 ≤ m.subscriptionsActive ∧
    ((∀ a ∈ r.sessions, a.session.state = .closed) → m.sessionsActive = 0) ∧
    ((∀ x ∈ r.runners, x.isActive = false) → m.subscriptionsActive = 0) := by
  intro m
  obtain ⟨balanced, ended⟩ := balanced_of_trace run others
  -- What is counted of the sessions is read off the sessions themselves.
  have total : m.sessionsTotal = r.sessions.length := by
    rw [balanced.total, tallies, List.length_map]
  have closed : r.tallies.countP Tally.isClosed =
      r.sessions.countP fun a => a.session.state = .closed := by
    rw [tallies, List.countP_map]
    refine List.countP_congr fun a _ => ?_
    simp [Attached.tally, Session.isClosed]
  have all : r.tallies.flatMap Tally.runners = r.runners := List.flatMap_map ..
  -- A session counts as active until it is closed.
  have active : m.sessionsActive + r.sessions.countP (fun a => a.session.state = .closed) =
      r.sessions.length := by
    rw [← closed, balanced.active, tallies, List.length_map]
  have running : m.subscriptionsActive = r.runners.countP Runner.isActive := by
    rw [← all]
    exact balanced.running
  have least := List.countP_le_length (p := fun a : Attached => decide (a.session.state = .closed))
    (l := r.sessions)
  refine ⟨total, by omega, running, balanced.forwarded, fun kind => ?_, balanced.errors,
    ended.once, fun name among => ?_, by omega, by omega, fun shut => ?_, fun gone => ?_⟩
  · rw [balanced.failed kind, all]
    refine List.countP_congr fun x _ => ?_
    simp [Runner.isFailedOf, Runner.hasFailed_iff]
  · -- Whoever was ended by a failure is still among the sessions.
    obtain ⟨t, tallied, rfl, -⟩ := ended.left name among
    obtain ⟨a, there, rfl⟩ := List.mem_map.mp tallied
    exact List.mem_map_of_mem there
  -- Once all are closed, as many are closed as there have been.
  · have every : r.sessions.countP (fun a => decide (a.session.state = .closed)) =
        r.sessions.length := List.countP_eq_length.mpr fun a among => by simp [shut a among]
    omega
  · have nobody : r.runners.countP Runner.isActive = 0 :=
      List.countP_eq_zero.mpr fun x among => by simp [gone x among]
    omega

/-- A session delivers one event, its runner fails, and a frame that cannot be read ends it; when it
is closed, another one is put into the register and has its runner begin. -/
theorem counts_are_conserved_of_two :
    let items : List FeedItem :=
      [.event ⟨.created, "p", .object [("name", .string "a")]⟩, .failure (.backend "gone")]
    ∃ past r, Trace act (new {} (.of (.played ⟨[], 0, items, true⟩))) past r ∧
      forwarded past = [.artifact] ∧ failures past = [("left", "malformed_frame")] ∧
      r.env.metrics.sessionsTotal = 2 ∧ r.env.metrics.sessionsActive = 1 ∧
      r.env.metrics.subscriptionsActive = 1 ∧ r.env.metrics.forwarded.get .artifact = 1 ∧
      r.env.metrics.runnerFailures.get .artifact = 1 ∧
      (r.env.metrics.sessionErrors.lookup "malformed_frame").getD 0 = 1 := by
  intro items
  let left (task : Session.Task) : Act := .move (.session "left" (.task task))
  let here (task : Session.Task) : Act := .move (.session "here" (.task task))
  let runs := left (.runner 0)
  let close := left (.teardown 0)
  let subscribe : InFrame := .text "\x7b\"op\":\"subscribe\",\"kind\":\"Artifact\"\x7d"
  let acts : List Act :=
    [.move (.connect "left" default .clear true), .move (.session "left" (.arrive subscribe)),
      left .receiver, left .receiver, left .eventLoop, left .eventLoop, left .eventLoop,
      left .eventLoop, runs, runs, runs, runs, runs, runs,
      .move (.session "left" (.arrive (.text "?"))), left .receiver, left .eventLoop,
      left .eventLoop, .move (.attend "left"), left .keepAlive, close, close, close, close, close,
      .start "here" default .clear .run, .add "here" false,
      .move (.session "here" (.arrive subscribe)), here .receiver, here .receiver, here .eventLoop,
      here .eventLoop, here .eventLoop, here .eventLoop, here (.runner 0)]
  -- One client leaves by a malformed frame, and the other one stays with its runner.
  have plays : ((Trace.play act (new {} (.of (.played ⟨[], 0, items, true⟩))) acts).any fun p =>
      decide (forwarded p.1 = [.artifact] ∧ failures p.1 = [("left", "malformed_frame")] ∧
        p.2.sessions.length = 2 ∧ p.2.runners.countP Runner.isActive = 1 ∧
        p.2.sessions.countP (fun a => a.session.state = .closed) = 1 ∧
        (p.2.runners.countP fun x =>
          (x.phase = .finished .openFailed ∨ x.phase = .finished .streamFailed) ∧
            x.kind = .artifact) = 1)) = true := by
    decide +kernel
  obtain ⟨⟨past, r⟩, played, checked⟩ := (Option.any_eq_true _ _).mp plays
  obtain ⟨delivered, ended, sessions, active, closed, failed⟩ := of_decide_eq_true checked
  have run := Trace.of_play played
  -- Nobody else has touched the counts.
  have others : ∀ o ∈ past, ∀ env, o.move = .move (.outside env) →
      env.metrics = o.state.env.metrics := by
    intro o among env outside
    have there : o.move ∈ acts := Trace.moves_of_play played ▸ List.mem_map_of_mem among
    rw [outside] at there
    simp [acts, left, here, runs, close] at there
  obtain ⟨total, live, running, forwards, fails, errors, -⟩ := counts_are_conserved run others
  rw [sessions] at total
  refine ⟨past, r, run, delivered, ended, total, ?_, ?_, ?_, ?_, ?_⟩
  · rw [live, total, closed]
    rfl
  · rw [running, active]
    rfl
  · rw [forwards, delivered]
    rfl
  · exact (fails .artifact).trans failed
  · rw [errors, ended]
    rfl

end Relay

end WatchRelay
