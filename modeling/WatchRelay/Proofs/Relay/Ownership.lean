import WatchRelay.Proofs.Relay.Register
import WatchRelay.Proofs.Relay.Shutdown

/-! Who owns the sessions of a relay: the register, until somebody takes them out of it, who then
has them torn down. -/

namespace WatchRelay

namespace Relay

variable {r r' : Relay} {x : Act} {past : List Entry} {a : Attached}

/-- Who has a session, where sessions are torn down through the register alone: nobody before it is
put into the register, and from then on the register or the one call that has taken it out. -/
inductive Held (past : List Entry) (r : Relay) (a : Attached) : Prop where
  | loose (never : a.name ∉ added past) (uncalled : a.session.calls = [])
      (alone : a.attendance = .none) : Held past r a
  | owned (known : a.name ∈ added past) (custody : r.Custody a) : Held past r a

/-- What is known along a history of the sessions that were put into the register. -/
structure Keeping (past : List Entry) (r : Relay) : Prop where
  known : ∀ name ∈ added past, name ∈ r.names
  held : ∀ a ∈ r.sessions, Held past r a

/-- A session that nobody has called to be torn down is not closed. -/
theorem unclosed_of_uncalled (hosts : r.Hosts) (among : a ∈ r.sessions)
    (uncalled : a.session.calls = []) : a.session.state ≠ .closed := by
  intro closed
  obtain ⟨s₀, e₀, past, begins, run⟩ := hosts.lives a among
  -- A closed session was torn down, by somebody who has called.
  have torn := ((run.settled begins).2.finished closed).2.1
  exact (run.lived begins).taken torn (List.map_eq_nil_iff.mp uncalled)

/-- Custody of a session does not depend on more than the register says of it and who waits. -/
theorem Custody.congr (custody : r.Custody a) (listed : a.name ∈ r'.registered ↔
    a.name ∈ r.registered)
    (pending : r'.pending = r.pending) : r'.Custody a := by
  -- The register is asked for its name, and the calls for those that wait.
  cases custody with
  | registered there uncalled present => exact .registered (listed.mpr there) uncalled present
  | taken gone only awaited => exact .taken (mt listed.mp gone) only (by rwa [pending])

/-- What an act adds to those that were put into the register. -/
theorem added_concat (past : List Entry) (r : Relay) (x : Act) :
    added (past ++ [⟨r, x⟩]) = added past ++ x.adds?.toList :=
  Trace.filterMap_concat _ past ⟨r, x⟩

/-- Whoever is in the register was put into it. -/
theorem mem_added {config : Config} {source : Source}
    (run : Trace act (new config source) past r) (distinct : (added past).Nodup) {name : String}
    (listed : name ∈ r.registered) : name ∈ added past :=
  (taken_perm run distinct).subset (List.mem_append_right _ listed)

/-- What is put into the register is a session that is there. -/
theorem known_step (hosts : r.Hosts) (acted : r.act x = some r')
    (known : ∀ name ∈ added past, name ∈ r.names)
    (grows : ∀ name ∈ r.names, name ∈ r'.names) :
    ∀ name ∈ added (past ++ [⟨r, x⟩]), name ∈ r'.names := by
  intro name among
  rw [added_concat] at among
  -- It was put there before, or is put there now, and what is in the register is there.
  rcases List.mem_append.mp among with old | new
  · exact grows name (known name old)
  · have own : x.adds? = some name := by simpa using new
    refine (act_hosts hosts acted).listed name ?_
    cases act_registers hosts acted with
    | added own' registered =>
      obtain rfl := Option.some.inj (own'.symm.trans own)
      rw [registered]
      exact List.mem_append_right _ (List.mem_singleton_self _)
    | kept none _ _ => simp [none] at own
    | taken none _ _ _ => simp [none] at own

/-- A session that starts out of the register is held by nobody. -/
theorem Keeping.start {name : String} {credentials : Credentials} {wire : WireState}
    {use : LoopUse} (hosts : r.Hosts) (keeping : Keeping past r)
    (acted : r.act (.start name credentials wire use) = some r') :
    Keeping (past ++ [⟨r, .start name credentials wire use⟩]) r' := by
  -- The new session is in nobody's hands, and the others stay where they are.
  cases act_acts acted with
  | @started b _ _ _ fresh begins alone =>
    have adds : added (past ++ [⟨r, .start b.name credentials wire use⟩]) = added past := by
      simp [added_concat, Act.adds?]
    refine ⟨known_step hosts acted keeping.known fun x there => ?_, fun a among => ?_⟩
    · rw [names_hosting]
      exact List.mem_append_left _ there
    · rcases List.mem_append.mp among with old | new
      · cases keeping.held a old with
        | loose never uncalled alone => exact .loose (adds ▸ never) uncalled alone
        | owned known custody => exact .owned (adds ▸ known) (custody.congr .rfl rfl)
      · -- A name that was put into the register before would not be new.
        obtain rfl := List.mem_singleton.mp new
        refine .loose ?_ begins.calls alone
        rw [adds]
        exact fun known => fresh (keeping.known _ known)

/-- A session that is put into the register is the register's. -/
theorem Keeping.add {name : String} {attended : Bool} (hosts : r.Hosts) (keeping : Keeping past r)
    (acted : r.act (.add name attended) = some r')
    (distinct : (added (past ++ [⟨r, .add name attended⟩])).Nodup) :
    Keeping (past ++ [⟨r, .add name attended⟩]) r' := by
  -- Only the session of the name moves, from nobody's hands into the register.
  cases act_acts acted with
  | @added b _ _ _ =>
    have adds : added (past ++ [⟨r, .add b.name attended⟩]) = added past ++ [b.name] :=
      added_concat past r _
    rw [adds] at distinct
    have never : b.name ∉ added past := fun old =>
      (List.nodup_append.mp distinct).2.2 b.name old b.name (List.mem_singleton_self _) rfl
    refine ⟨known_step hosts acted keeping.known fun x there => ?_, fun a' among => ?_⟩
    · rwa [names_adopting]
    · obtain ⟨a, old, step⟩ := List.mem_map.mp among
      by_cases own : a.name = b.name
      · -- It was not put into the register before, so nobody has it.
        rw [if_pos own] at step
        subst step
        cases keeping.held a old with
        | loose _ uncalled _ =>
          have last : a.name ∈ [b.name] := List.mem_singleton.mpr own
          refine .owned ?_ (.registered (List.mem_append_right _ last) uncalled ?_)
          · rw [adds]
            exact List.mem_append_right _ last
          · cases attended
            · exact .inr rfl
            · exact .inl rfl
        | owned known _ => exact absurd (own ▸ known) never
      · -- The others stay with whoever has them.
        rw [if_neg own] at step
        subst step
        cases keeping.held a old with
        | loose never uncalled alone =>
          refine .loose ?_ uncalled alone
          rw [adds, List.mem_append, List.mem_singleton]
          exact not_or.mpr ⟨never, own⟩
        | owned known custody =>
          refine .owned ?_ (custody.congr ?_ rfl)
          · rw [adds]
            exact List.mem_append_left _ known
          · show a.name ∈ (r.register b.name).registered ↔ _
            simp [register, own]

/-- A client that connects has a session with a name of its own. -/
theorem connect_fresh {m : Move} {name : String} (acted : r.act (.move m) = some r')
    (own : (Act.move m).adds? = some name) : name ∉ r.names := by
  -- Only a connection adds a session with its very start, and it asks for a new name.
  cases act_acts acted with
  | connected fresh _ _ => exact Option.some.inj own ▸ fresh
  | _ => cases own

/-- Every other act leaves a session to whoever has it, or hands it over. -/
theorem Keeping.move {config : Config} {source : Source} {m : Move}
    (run : Trace act (new config source) past r) (keeping : Keeping past r)
    (via : m.viaRegister = true) (acted : r.act (.move m) = some r')
    (distinct : (added (past ++ [⟨r, .move m⟩])).Nodup) :
    Keeping (past ++ [⟨r, .move m⟩]) r' := by
  have hosts := hosts_of_trace run
  obtain ⟨f, new, turn⟩ := move_turn hosts acted
  have adds := added_concat past r (.move m)
  have before : (added past).Nodup := (List.nodup_append.mp (adds ▸ distinct)).1
  have names : ∀ x ∈ r.names, x ∈ r'.names := fun x there =>
    turn.names ▸ List.mem_append_left _ there
  refine ⟨known_step hosts acted keeping.known names, fun a' among => ?_⟩
  rcases turn.cases among with ⟨a, old, same, fate⟩ | start
  · cases keeping.held a old with
    | owned known custody =>
      -- It was added before, and stays with whoever has it.
      refine .owned ?_ (fate.custody hosts via turn.ledger old custody)
      rw [adds, ← same]
      exact List.mem_append_left _ known
    | loose never uncalled alone =>
      -- Out of the register nobody takes it, attends it or, by `via`, tears it down past it.
      have out : a.name ∉ r.registered := fun listed => never (mem_added run before listed)
      cases fate with
      | went quiet moved _ =>
        refine .loose ?_ ?_ alone
        · -- A client that connects has a name of its own.
          rw [adds, List.mem_append]
          rintro (known | own)
          · exact never known
          · exact connect_fresh acted (by simpa using own) (List.mem_map_of_mem old)
        · exact ((Session.move_moves moved).calls (hosts.numbered old) quiet).trans uncalled
      | taken _ _ there _ _ _ | left _ _ there _ _ => exact absurd there out
      | parted ended _ _ =>
        rcases ended with ⟨-, attending⟩ | ⟨call, removing, -⟩
        · rw [alone] at attending
          cases attending
        · rw [alone] at removing
          cases removing
      | called past _ _ _ _ => simp [via] at past
  · -- A session that has just started is in the register.
    obtain ⟨-, listed, begins, present⟩ := turn.starts a' start
    exact .owned (mem_added (run.next acted) distinct listed)
      (.registered listed begins.calls present)

/-- Along every history in which sessions are torn down through the register alone, it is known who
has each of them. -/
theorem keeping_of_trace {config : Config} {source : Source}
    (run : Trace act (new config source) past r) (distinct : (added past).Nodup)
    (via : ∀ o ∈ past, ∀ m, o.move = .move m → m.viaRegister = true) : Keeping past r := by
  -- The induction is on the history, of which every part puts each session into the register once.
  induction run with
  | start => exact ⟨fun _ known => (List.not_mem_nil known).elim, fun _ among =>
      (List.not_mem_nil among).elim⟩
  | @next past r r' x run acted ih =>
    have before : (added past).Nodup := by
      rw [added_concat] at distinct
      exact (List.nodup_append.mp distinct).1
    have keeping := ih before fun o among => via o (List.mem_append_left _ among)
    have hosts := hosts_of_trace run
    cases x with
    | move m =>
      exact keeping.move run (via _ (List.mem_append_right _ (List.mem_singleton_self _)) m rfl)
        acted distinct
    | start name credentials wire use => exact keeping.start hosts acted
    | add name attended => exact keeping.add hosts acted distinct

/-- What is known of a session in the hands of the register, or of the call that has taken it
out. -/
theorem Keeping.owns {config : Config} {source : Source}
    (run : Trace act (new config source) past r) (distinct : (added past).Nodup)
    (keeping : Keeping past r) (among : a ∈ r.sessions) :
    (a.name ∈ r.registered → a.session.calls = [] ∧ a.session.state ≠ .closed) ∧
    (a.name ∈ taken past → ∃ call, a.session.calls = [call] ∧ (a.session.state = .closed ∨
      a.attendance = .removing call ∨ ∃ c ∈ r.pending, (a.name, call) ∈ c.waits)) := by
  have perm := taken_perm run distinct
  -- What was taken out is not in the register.
  have apart := (List.nodup_append.mp (perm.nodup_iff.mpr distinct)).2.2
  cases keeping.held a among with
  | loose never _ _ =>
    refine ⟨fun there => ?_, fun out => ?_⟩
    · exact absurd (mem_added run distinct there) never
    · exact absurd (perm.subset (List.mem_append_left _ out)) never
  | owned _ custody =>
    cases custody with
    | registered there uncalled _ =>
      refine ⟨fun _ => ⟨uncalled, unclosed_of_uncalled (hosts_of_trace run) among uncalled⟩,
        fun out => ?_⟩
      exact absurd rfl (apart a.name out a.name there)
    | @taken call gone only awaited =>
      exact ⟨fun there => absurd there gone, fun _ => ⟨call, only, awaited⟩⟩

/-- A call that is to take a session out of the register, or all, leaves it taken. -/
theorem taken_of_removal {config : Config} {source : Source} {name : String}
    (run : Trace act (new config source) past r) (acted : r.act x = some r')
    (distinct : (added past).Nodup) (known : name ∈ added past)
    (removal : ∃ tag, x = .move (.unregister tag name) ∨ x = .move (.closeAll tag)) :
    name ∈ taken (past ++ [⟨r, x⟩]) := by
  have hosts := hosts_of_trace run
  rw [taken, List.flatMap_append, List.mem_append]
  rcases List.mem_append.mp ((taken_perm run distinct).symm.subset known) with out | there
  · exact .inl out
  · -- It is in the register, and not any more afterwards.
    have gone : name ∉ r'.registered := by
      obtain ⟨tag, rfl | rfl⟩ := removal
      · cases act_acts acted with
        | unregister _ => exact gone_of_unregister r tag name
      · cases act_acts acted with
        | closeAll free =>
          rw [(closeAll_call hosts free).1]
          exact List.not_mem_nil
    exact .inr (by simpa using (mem_takes acted).mpr ⟨there, gone⟩)

/-- Each session that was put into the register is in it or was taken out of it once.

Sessions are put into it once each.
They are taken out by calls for one of them, by calls for all and by the tasks that attend them.
After a call to take it or all out, a session surely was taken out.

Whoever takes a session begins to tear it down and waits for that.
A call to take one out that is not there touches no session and returns that it was not there.

As long as sessions are torn down in no other way, none in the register is closed or closing.
Then the one that took a session is the only one who has torn it down. -/
theorem register_owns_sessions {config : Config} {source : Source}
    (run : Trace act (new config source) past r) (distinct : (added past).Nodup) :
    (taken past ++ r.registered).Perm (added past) ∧ (taken past).Nodup ∧
    r.registered.length + (taken past).length = (added past).length ∧
    (∀ before o after, past = before ++ o :: after → ∀ name ∈ added before,
      (∃ tag, o.move = .move (.unregister tag name) ∨ o.move = .move (.closeAll tag)) →
        name ∈ taken (before ++ [o])) ∧
    (∀ o ∈ past, ∃ r', o.state.act o.move = some r' ∧
      (∀ name ∈ takes o, ∃ call s, o.state.session? name = some s ∧ call ∉ s.calls ∧
        r'.session? name = some (s.beginTeardown call o.state.env.now) ∧
        Takes o.move r' name call) ∧
      ∀ name, o.move.removes? = some name → name ∉ takes o →
        r'.registered = o.state.registered ∧ r'.named = o.state.named) ∧
    (∀ o ∈ past, ∀ tag name, o.move = .move (.unregister tag name) →
      ∀ y ∈ r.returned, y.tag = tag → y.result = .removed (decide (name ∈ takes o))) ∧
    ((∀ o ∈ past, ∀ m, o.move = .move m → m.viaRegister = true) → ∀ a ∈ r.sessions,
      (a.name ∈ r.registered → a.session.calls = [] ∧ a.session.state ≠ .closed) ∧
      (a.name ∈ taken past → ∃ call, a.session.calls = [call] ∧
        (a.session.state = .closed ∨
        a.attendance = .removing call ∨ ∃ c ∈ r.pending, (a.name, call) ∈ c.waits))) := by
  have perm := taken_perm run distinct
  have once := perm.nodup_iff.mpr distinct
  have lengths := perm.length_eq
  rw [List.length_append] at lengths
  refine ⟨perm, (List.nodup_append.mp once).1, by omega, fun before o after split name known
    removal => ?_, fun o among => ?_, fun o among tag name own y back same => ?_,
    fun via a among => (keeping_of_trace run distinct via).owns run distinct among⟩
  · -- What was put into the register up to the call was put there once.
    subst split
    obtain ⟨r₁, first, acted, -⟩ := run.split
    refine taken_of_removal first acted ?_ known removal
    rw [added, List.filterMap_append] at distinct
    exact (List.nodup_append.mp distinct).1
  · -- Every act was done to a relay of which the same is known.
    obtain ⟨before, after, rfl⟩ := List.append_of_mem among
    obtain ⟨r₁, first, acted, -⟩ := run.split
    have registers := act_registers (hosts_of_trace first) acted
    exact ⟨r₁, acted, fun name out => registers.takers (hosts_of_trace first) acted out,
      fun name own missed => registers.others acted own missed⟩
  · obtain ⟨before, after, rfl⟩ := List.append_of_mem among
    obtain ⟨state, x⟩ := o
    obtain rfl : x = .move (.unregister tag name) := own
    obtain ⟨r₁, first, acted, later⟩ := run.split
    -- What the call returns it has found out when it was made.
    have answers := Answers.started (act_books (hosts_of_trace first) acted)
    have result := (answers.along (first.next acted) later).returned y back same
    rw [result, List.contains_eq_mem]
    congr 1
    refine decide_eq_decide.mpr ((mem_takes acted).trans (and_iff_left ?_)).symm
    cases act_acts acted with
    | unregister _ => exact gone_of_unregister state tag name

/-- Of two sessions one is taken out by a call for it, and the other one by the call for all.

A second call for the first one returns that it was not there. -/
theorem register_owns_sessions_taken : ∃ past r,
    Trace act (new {} (.of (.played .live))) past r ∧ added past = ["first", "second"] ∧
      taken past = ["first", "second"] ∧ r.registered = [] ∧ r.hasReturned 1 = true ∧
      (∀ y ∈ r.returned, y.tag = 1 → y.result = .removed false) ∧
      ∀ a ∈ r.sessions, a.name ∈ ["first", "second"] →
        ∃ call, a.session.calls = [call] := by
  let acts : List Act :=
    [.start "first" default .clear .leave, .add "first" false,
      .move (.connect "second" default .clear true), .move (.unregister 0 "first"),
      .move (.unregister 1 "first"), .move (.closeAll 2), .move .returnCalls]
  have plays : ((Trace.play act (new {} (.of (.played .live))) acts).any fun p =>
      decide (added p.1 = ["first", "second"] ∧ taken p.1 = ["first", "second"] ∧
        p.2.registered = [] ∧ p.2.hasReturned 1 = true ∧
        p.1[4]?.map takes = some [])) = true := by
    decide +kernel
  obtain ⟨⟨past, r⟩, played, checked⟩ := (Option.any_eq_true _ _).mp plays
  obtain ⟨all, out, empty, back, misses⟩ := of_decide_eq_true checked
  have run := Trace.of_play played
  have moves := Trace.moves_of_play played
  -- The second call for the first session is the fifth act.
  obtain ⟨o, found, nothing⟩ := Option.map_eq_some_iff.mp misses
  have among : o ∈ past := List.mem_of_getElem? found
  have second : o.move = .move (.unregister 1 "first") := by
    have place := congrArg (fun l => l[4]?) moves
    simpa [found, acts] using place
  have via : ∀ o ∈ past, ∀ m, o.move = .move m → m.viaRegister = true := by
    intro o among m own
    have there : o.move ∈ acts := moves ▸ List.mem_map_of_mem among
    rw [own] at there
    simp only [acts, List.mem_cons, reduceCtorEq, Act.move.injEq, List.not_mem_nil, or_false,
      false_or] at there
    rcases there with rfl | rfl | rfl | rfl | rfl <;> rfl
  obtain ⟨-, -, -, -, -, results, held⟩ :=
    register_owns_sessions run (by rw [show added past = _ from all]; decide)
  refine ⟨past, r, run, all, out, empty, back, fun y there same => ?_, fun a there known => ?_⟩
  · rw [results o among 1 "first" second y there same, nothing]
    rfl
  · obtain ⟨call, only, -⟩ :=
      (held via a there).2 (by rw [show taken past = _ from out]; exact known)
    exact ⟨call, only⟩

end Relay

end WatchRelay
