import WatchRelay.Proofs.Relay.Turns

/-! Shutdown: the call that closes all sessions returns with those closed that were in the register
when it was made, and waits for no other. -/

namespace WatchRelay

namespace Relay

variable {r r' : Relay} {m : Move} {f : Attached → Attached} {added : List Attached}
  {a a' : Attached}

/-- Who has a session: the register, or the one call that has taken it out.

As long as the session is not closed, somebody waits for that call. -/
inductive Custody (r : Relay) (a : Attached) : Prop where
  | registered (there : a.name ∈ r.registered) (uncalled : a.session.calls = [])
      (present : a.attendance = .attending ∨ a.attendance = .none)
  | taken {call : Nat} (gone : a.name ∉ r.registered) (only : a.session.calls = [call])
      (awaited : a.session.state = .closed ∨ a.attendance = .removing call ∨
        ∃ c ∈ r.pending, (a.name, call) ∈ c.waits)

/-- Whether a session is waited for by the one call that tears it down: by its own task, or by
somebody who has called for that. -/
def IsAwaited (r : Relay) (a : Attached) : Prop :=
  ∃ call, a.session.calls = [call] ∧
    (a.attendance = .removing call ∨ ∃ c ∈ r.pending, (a.name, call) ∈ c.waits)

/-- Whether sessions with some names are there and closed. -/
structure AllClosed (r : Relay) (names : List String) : Prop where
  known : ∀ name ∈ names, name ∈ r.names
  closed : ∀ a ∈ r.sessions, a.name ∈ names → a.session.state = .closed

/-- A session that is in the hands of a call is closed when a call for it is over. -/
theorem Custody.closed_of_over (hosts : r.Hosts) (among : a ∈ r.sessions) (custody : r.Custody a)
    {call : Nat} (ended : r.teardownOver a.name call = true) : a.session.state = .closed := by
  have finished : a.session.teardown? call = some .finished := by
    simpa [teardownOver, hosts.session? among] using ended
  have counted : call ∈ a.session.calls := by
    refine Decidable.byContradiction fun free => ?_
    rw [Session.teardown?_eq_none free] at finished
    cases finished
  cases custody with
  | registered _ uncalled _ =>
    rw [uncalled] at counted
    cases counted
  | taken _ only _ =>
    -- There is only one call, which has the work.
    obtain rfl : call = _ := List.mem_singleton.mp (only ▸ counted)
    obtain ⟨s₀, e₀, past, begins, run⟩ := hosts.lives a among
    exact (run.lived begins).closed_of_only only finished

/-- Whatever becomes of a closed session, it stays closed. -/
theorem Fate.closed_stays (hosts : r.Hosts) (among : a ∈ r.sessions) (fate : Fate m r r' a a')
    (closed : a.session.state = .closed) : a'.session.state = .closed := by
  obtain ⟨n, moved⟩ := fate.move (hosts.counted a among)
  exact (Session.move_moves moved).closed_stays (hosts.numbered among) closed

/-- Where sessions are torn down through the register alone, each stays in its custody or goes from
the register to the call that takes it out. -/
theorem Fate.custody (hosts : r.Hosts) (via : m.viaRegister = true) (ledger : Ledger r r')
    (among : a ∈ r.sessions) (custody : r.Custody a) (fate : Fate m r r' a a') :
    r'.Custody a' := by
  have stays := fate.closed_stays hosts among
  have closes {call : Nat} (ended : r.teardownOver a.name call = true) :
      a.session.state = .closed := custody.closed_of_over hosts among ended
  cases custody with
  | registered there uncalled present =>
    cases fate with
    | went quiet moved listed =>
      -- It is registered as before, for its teardown was not called.
      have same := (Session.move_moves moved).calls (hosts.numbered among) quiet
      exact .registered (listed.mpr there) (same.trans uncalled) present
    | taken _ _ _ gone awaited _ =>
      exact .taken gone (by simp [uncalled]) (.inr (.inr awaited))
    | left _ _ _ gone _ => exact .taken gone (by simp [uncalled]) (.inr (.inl rfl))
    | parted ended _ _ =>
      -- Its task would have found it gone, or have taken it out before.
      rcases ended with ⟨gone, -⟩ | ⟨call, removing, -⟩
      · exact absurd there gone
      · rcases present with attending | none
        · rw [removing] at attending
          cases attending
        · rw [removing] at none
          cases none
    | called past _ _ _ _ => simp [via] at past
  | @taken call gone only awaited =>
    -- Who waited for the call waits still, or the call is over and the session closed.
    have waits (c : PendingCall) (pending : c ∈ r.pending) (waited : (a.name, call) ∈ c.waits) :
        a.session.state = .closed ∨ ∃ c ∈ r'.pending, (a.name, call) ∈ c.waits := by
      rcases ledger.pending c pending with still | ended
      · exact .inr ⟨c, still, waited⟩
      · exact .inl (closes (List.all_eq_true.mp ended _ waited))
    cases fate with
    | went quiet moved listed =>
      have same := (Session.move_moves moved).calls (hosts.numbered among) quiet
      refine .taken (mt listed.mp gone) (same.trans only) ?_
      -- Whoever has it closes it, attends it or waits for the call.
      rcases awaited with closed | removing | ⟨c, pending, waited⟩
      · exact .inl (stays closed)
      · exact .inr (.inl removing)
      · exact (waits c pending waited).imp stays .inr
    | taken _ _ there _ _ _ | left _ _ there _ _ => exact absurd there gone
    | parted ended listed _ =>
      refine .taken (mt listed.mp gone) only ?_
      rcases ended with ⟨-, attending⟩ | ⟨other, -, ended⟩
      -- The one who attends goes, so it is closed or a call waits for it.
      · rcases awaited with closed | removing | ⟨c, pending, waited⟩
        · exact .inl closed
        · rw [attending] at removing
          cases removing
        · exact (waits c pending waited).imp id .inr
      · exact .inl (closes ended)
    | called past _ _ _ _ => simp [via] at past

namespace Turn

theorem custody (hosts : r.Hosts) (via : m.viaRegister = true)
    (held : ∀ a ∈ r.sessions, r.Custody a) (turn : Turn m r r' f added) :
    ∀ a ∈ r'.sessions, r'.Custody a := by
  -- A session from before meets its fate in this turn, and a new one is in the register.
  intro a' among
  rcases turn.cases among with ⟨a, before, -, fate⟩ | new
  · exact fate.custody hosts via turn.ledger before (held a before)
  · obtain ⟨-, listed, begins, present⟩ := turn.starts a' new
    exact .registered listed begins.calls present

/-- Closed sessions stay closed. -/
theorem allClosed (hosts : r.Hosts) {names : List String} (held : r.AllClosed names)
    (turn : Turn m r r' f added) : r'.AllClosed names := by
  -- What is closed stays so, and a new session has a name of its own.
  refine ⟨fun name named => ?_, fun a' among named => ?_⟩
  · rw [turn.names]
    exact List.mem_append_left _ (held.known name named)
  · rcases turn.cases among with ⟨a, before, same, fate⟩ | new
    · exact fate.closed_stays hosts before (held.closed a before (same ▸ named))
    · exact absurd (held.known _ named) (turn.starts a' new).1

/-- Names that are out of the register stay out of it. -/
theorem gone (turn : Turn m r r' f added) {names : List String}
    (held : ∀ name ∈ names, name ∈ r.names ∧ name ∉ r.registered) :
    ∀ name ∈ names, name ∈ r'.names ∧ name ∉ r'.registered := by
  -- Only a new session enters the register, and its name was not known before.
  intro name named
  obtain ⟨known, gone⟩ := held name named
  refine ⟨turn.names ▸ List.mem_append_left _ known, fun there => ?_⟩
  rcases turn.listed name there with before | new
  · exact gone before
  · obtain ⟨a, start, rfl⟩ := List.mem_map.mp new
    exact (turn.starts a start).1 known

end Turn

/-- What is known of a call: it is the only one with its tag and has not returned, or all sessions
it has waited for are closed. -/
structure Tracked (r : Relay) (c : PendingCall) : Prop where
  known : ∀ name ∈ c.waits.map (·.1), name ∈ r.names
  waits : (c ∈ r.pending ∧ (∀ d ∈ r.pending, d.tag = c.tag → d = c) ∧
    r.hasReturned c.tag = false) ∨ r.AllClosed (c.waits.map (·.1))

/-- A call is known until it returns, and then all sessions it has waited for are closed. -/
theorem Turn.tracked (hosts : r.Hosts) (custody : ∀ a ∈ r.sessions, r.Custody a)
    {c : PendingCall}
    (held : r.Tracked c) (turn : Turn m r r' f added) : r'.Tracked c := by
  refine ⟨fun name named => turn.names ▸ List.mem_append_left _ (held.known name named), ?_⟩
  rcases held.waits with ⟨there, alone, out⟩ | closed
  · cases ended : r.isOver c with
    | true =>
      -- Every session it waits for is closed when the call for it is over.
      refine .inr (turn.allClosed hosts ⟨held.known, fun a among named => ?_⟩)
      obtain ⟨⟨name, call⟩, waited, same⟩ := List.mem_map.mp named
      have same : name = a.name := same
      rw [same] at waited
      exact (custody a among).closed_of_over hosts among (List.all_eq_true.mp ended _ waited)
    | false =>
      refine .inl ⟨?_, fun d pending same => ?_, Bool.eq_false_iff.mpr fun back => ?_⟩
      · exact (turn.ledger.pending c there).resolve_right (by simp [ended])
      · rcases turn.ledger.tagged d pending with old | free
        · exact alone d old same
        · -- The tag is not free, because the call has it.
          have other := List.all_eq_true.mp (Bool.and_eq_true_iff.mp free).2 c there
          simp [same] at other
      · rcases turn.ledger.returned c.tag back with before | ⟨d, pending, same, due⟩
        · rw [out] at before
          cases before
        · rw [alone d pending same, ended] at due
          cases due
  · exact .inr (turn.allClosed hosts closed)

/-! ### Runs -/

/-- In any run each session is in somebody's custody. -/
theorem Reaches.custody {config : Config} {source : Source}
    (reached : (new config source).Reaches r) : r.Hosts ∧ ∀ a ∈ r.sessions, r.Custody a := by
  -- Every move through the register is a turn, and a turn keeps custody.
  refine reached.keeps (P := fun t => t.Hosts ∧ ∀ a ∈ t.sessions, t.Custody a)
    ⟨new_hosts config source, fun _ among => by cases among⟩ ?_
  intro t t' m via moved held
  obtain ⟨hosts, custody⟩ := held
  obtain ⟨f, added, turn⟩ := move_turn hosts moved
  exact ⟨turn.hosts hosts, turn.custody hosts via custody⟩

/-- Along a run a call is known until it returns, and names out of the register stay so. -/
theorem Reaches.tracked {c : PendingCall} {names : List String} (hosts : r.Hosts)
    (custody : ∀ a ∈ r.sessions, r.Custody a) (tracked : r.Tracked c)
    (gone : ∀ name ∈ names, name ∈ r.names ∧ name ∉ r.registered) (later : r.Reaches r') :
    (∀ a ∈ r'.sessions, r'.Custody a) ∧ r'.Tracked c ∧
      ∀ name ∈ names, name ∈ r'.names ∧ name ∉ r'.registered := by
  -- The call is followed from turn to turn, with the custody of the sessions beside it.
  have held := later.keeps
    (P := fun t => t.Hosts ∧ (∀ a ∈ t.sessions, t.Custody a) ∧ t.Tracked c ∧
      ∀ name ∈ names, name ∈ t.names ∧ name ∉ t.registered)
    ⟨hosts, custody, tracked, gone⟩ ?_
  · exact held.2
  · intro t t' m via moved held
    obtain ⟨hosts, custody, tracked, gone⟩ := held
    obtain ⟨f, added, turn⟩ := move_turn hosts moved
    exact ⟨turn.hosts hosts, turn.custody hosts via custody, turn.tracked hosts custody tracked,
      turn.gone gone⟩

/-- Sessions that are closed stay closed along any run. -/
theorem Reaches.allClosed {names : List String} (hosts : r.Hosts) (held : r.AllClosed names)
    (later : r.Reaches r') : r'.AllClosed names := by
  -- Turn by turn, what is closed stays closed.
  have held := later.keeps (P := fun t => t.Hosts ∧ t.AllClosed names) ⟨hosts, held⟩ ?_
  · exact held.2
  · intro t t' m _ moved held
    obtain ⟨f, added, turn⟩ := move_turn held.1 moved
    exact ⟨turn.hosts held.1, turn.allClosed held.1 held.2⟩

/-- The call that closes all sessions empties the register, and waits for all that were in it. -/
theorem closeAll_call {tag : Nat} (hosts : r.Hosts) (free : r.isFree tag = true) :
    (r.callCloseAll tag).registered = [] ∧
      ∃ c, c.tag = tag ∧ c.waits.map (·.1) = r.registered ∧
        (r.callCloseAll tag).Tracked c := by
  obtain ⟨f, turn⟩ := closeAll_turn hosts free
  obtain ⟨named, -, leads⟩ := beginTeardowns_spec (r := { r with registered := [] }) hosts.once
  have known := turn.names
  unfold callCloseAll at known ⊢
  generalize ({ r with registered := [] } : Relay).beginTeardowns r.registered = begins at *
  obtain ⟨waits, r'⟩ := begins
  dsimp only at named leads
  subst leads
  -- Nobody else has the tag, for it was free.
  obtain ⟨out, others⟩ := Bool.and_eq_true_iff.mp free
  refine ⟨rfl, ⟨tag, .closeAll, waits⟩, rfl, named, fun name waited => ?_,
    .inl ⟨?_, ?_, ?_⟩⟩
  · rw [known]
    exact List.mem_append_left _ (hosts.listed name (named ▸ waited))
  · exact List.mem_append_right _ (List.mem_singleton_self _)
  · intro d pending same
    rcases List.mem_append.mp pending with old | new
    · have other := List.all_eq_true.mp others d old
      simp [same] at other
    · exact List.mem_singleton.mp new
  · exact (Bool.not_eq_true' _).mp out

/-- When the call that closes all sessions has returned, all that it found registered are closed.

A session that a call of its own had taken out of the register before may be still to be closed.
Then that call is still waited for.

If no such session is left unclosed when the call is made, all are closed when it has returned. -/
theorem closing_all_closes_registered {config : Config} {source : Source} {r r₁ r₂ : Relay}
    {tag : Nat} (reached : (new config source).Reaches r)
    (called : r.move (.closeAll tag) = some r₁) (later : r₁.Reaches r₂)
    (back : r₂.hasReturned tag = true) :
    (∀ name ∈ r.registered, ∃ a ∈ r₂.sessions, a.name = name ∧
      a.session.state = .closed) ∧
    (∀ a ∈ r₂.sessions, a.name ∈ r.names →
      a.session.state = .closed ∨ a.name ∉ r.registered ∧ r₂.IsAwaited a) ∧
    ((∀ a ∈ r.sessions, a.name ∈ r.registered ∨ a.session.state = .closed) →
      ∀ a ∈ r₂.sessions, a.name ∈ r.names → a.session.state = .closed) := by
  obtain ⟨hosts, custody⟩ := reached.custody
  obtain ⟨f, added, turn⟩ := move_turn hosts called
  obtain ⟨free, rfl⟩ : r.isFree tag = true ∧ r.callCloseAll tag = r₁ := by
    simpa only [move, Option.ite_none_right_eq_some, Option.some.injEq] using called
  obtain ⟨emptied, c, rfl, named, tracked⟩ := closeAll_call hosts free
  -- The register is empty then, and the names there are by then stay out of it.
  have out : ∀ name ∈ r.names, name ∈ (r.callCloseAll c.tag).names ∧
      name ∉ (r.callCloseAll c.tag).registered := fun name there =>
    ⟨turn.names ▸ List.mem_append_left _ there, by simp [emptied]⟩
  obtain ⟨custody₂, tracked₂, gone⟩ :=
    later.tracked (turn.hosts hosts) (turn.custody hosts rfl custody) tracked out
  -- The call is back, so all that it took are closed.
  have closed : r₂.AllClosed r.registered := by
    rcases tracked₂.waits with ⟨-, -, unreturned⟩ | closed
    · rw [back] at unreturned
      cases unreturned
    · exact named ▸ closed
  refine ⟨fun name listed => ?_, fun a among known => ?_, fun all a among known => ?_⟩
  · obtain ⟨a, among, rfl⟩ := List.mem_map.mp (closed.known name listed)
    exact ⟨a, among, rfl, closed.closed a among listed⟩
  · by_cases listed : a.name ∈ r.registered
    · exact .inl (closed.closed a among listed)
    · -- A call had taken it before, and whoever waited for that one waits still.
      cases custody₂ a among with
      | registered there _ _ => exact absurd there (gone _ known).2
      | taken _ only awaited =>
        exact awaited.imp id fun awaited => ⟨listed, _, only, awaited⟩
  · obtain ⟨a₀, there, same⟩ := List.mem_map.mp known
    rcases all a₀ there with listed | ended
    · exact closed.closed a among (same ▸ listed)
    -- A session that is closed stays so on the way.
    · have own : r.AllClosed [a.name] := by
        refine ⟨fun name named => List.mem_singleton.mp named ▸ known,
          fun b there' named => ?_⟩
        obtain rfl := List.inj_on_of_nodup_map hosts.distinct there' there
          ((List.mem_singleton.mp named).trans same.symm)
        exact ended
      exact (later.allClosed (turn.hosts hosts) (turn.allClosed hosts own)).closed a among
        (List.mem_singleton_self _)

/-- Two clients are connected, and one hangs up; its task has taken its session out of the register
when all are called to close.

The other session is closed when that call returns, and the first is still waited for by its task
alone. -/
theorem closing_all_closes_registered_of_two : ∃ r r₁ r₂,
    (new {} (.of (.played .live))).Reaches r ∧ r.move (.closeAll 0) = some r₁ ∧
    r₁.Reaches r₂ ∧
      r₂.hasReturned 0 = true ∧ r.names = ["left", "here"] ∧ r.registered = ["here"] ∧
      (∃ a ∈ r₂.sessions, a.name = "here" ∧ a.session.state = .closed) ∧
      ∃ a ∈ r₂.sessions, a.name = "left" ∧ a.session.state = .closing ∧
        r₂.IsAwaited a := by
  let left (task : Session.Task) : Move := .session "left" (.task task)
  let here (task : Session.Task) : Move := .session "here" (.task task)
  let before : List Move :=
    [.connect "left" default .clear true, .connect "here" default .clear true,
      .session "left" .hangUp, left .receiver, left .eventLoop, left .eventLoop, .attend "left",
      .shutdown]
  -- The loops of the other session stop, and the call closes its connection in five steps.
  let close := here (.teardown 1)
  let after : List Move :=
    [here .eventLoop, here .eventLoop, here .receiver, here .keepAlive, close, close, close, close,
      close, .returnCalls]
  have plays : ((new {} (.of (.played .live))).play before).any (fun r =>
      r.names == ["left", "here"] && r.registered == ["here"] &&
        (r.move (.closeAll 0)).any fun r₁ => (r₁.play after).any fun r₂ =>
          r₂.hasReturned 0 &&
          (r₂.attached? "left").any fun a => a.session.state == .closing) = true := by
    decide +kernel
  simp only [Option.any_eq_true, Bool.and_eq_true, beq_iff_eq] at plays
  obtain ⟨r, plays, ⟨names, registered⟩, r₁, called, r₂, plays', back, a, found,
      closing⟩ := plays
  have reached : (new {} (.of (.played .live))).Reaches r := ⟨before, plays, by decide⟩
  have later : r₁.Reaches r₂ := ⟨after, plays', by decide⟩
  have among : a ∈ r₂.sessions := List.mem_of_find?_eq_some found
  have own : a.name = "left" := by simpa using List.find?_some found
  obtain ⟨closed, others, -⟩ := closing_all_closes_registered reached called later back
  refine ⟨r, r₁, r₂, reached, called, later, back, names, registered,
    closed "here" (by simp [registered]), a, among, own, closing, ?_⟩
  -- The session that left was there when all were called, and it is not closed.
  rcases others a among (by simp [own, names]) with closed | ⟨-, awaited⟩
  · rw [closing] at closed
    cases closed
  · exact awaited

/-- A session that its own task has taken out of the register is not waited for.

Two clients are connected, and one hangs up before all are called to close.
The other session is closed when that call returns.
The first is still waited for by its task alone. -/
theorem closing_all_misses_left :
    ∃ moves r, (new {} (.of (.played .live))).play moves = some r ∧
    .shutdown ∈ moves ∧ .closeAll 0 ∈ moves ∧ (∀ m ∈ moves, m.viaRegister = true) ∧
      r.hasReturned 0 = true ∧ (r.session? "left").map (·.state) = some .closing := by
  -- The client has left on a transport that stalls, and its session waits to be closed meanwhile.
  let left (task : Session.Task) : Move := .session "left" (.task task)
  let moves : List Move :=
    [.connect "left" default .clear true, .session "left" (.wire ⟨.stall, .ready⟩),
      .session "left" .hangUp, left .receiver, left .eventLoop, left .eventLoop, .attend "left",
      left .keepAlive, left (.teardown 0), left (.teardown 0), .shutdown, .closeAll 0, .returnCalls]
  have plays : ((new {} (.of (.played .live))).play moves).any (fun r =>
      r.hasReturned 0 && (r.session? "left").map (·.state) == some .closing) = true := by
    decide +kernel
  simp only [Option.any_eq_true, Bool.and_eq_true, beq_iff_eq] at plays
  obtain ⟨r, plays, back, closing⟩ := plays
  exact ⟨moves, r, plays, by simp [moves], by simp [moves], by decide, back, closing⟩

end Relay

end WatchRelay
