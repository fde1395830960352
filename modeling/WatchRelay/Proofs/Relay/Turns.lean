import Mathlib.Data.List.Nodup
import WatchRelay.Proofs.Relay.Run
import WatchRelay.Proofs.Session.Lifecycle

/-! What each move of a relay does to its sessions: one goes on by itself, or a call begins that
tears it down. Every session so lives a run of its own. -/

namespace WatchRelay

namespace Relay

variable {r r' : Relay} {m : Move}

/-! ### One session and one move -/

/-- What becomes of an attached session in one move of the relay. -/
inductive Fate (m : Move) (r r' : Relay) (a : Attached) : Attached → Prop where
  /-- It goes on, or is told to end, and whether it is in the register is as before. -/
  | went {s' : Session} {n : Session.Move} (quiet : ∀ call, n ≠ .teardown call)
      (moved : a.session.move r.env n = some (s', r'.env))
      (listed : a.name ∈ r'.registered ↔ a.name ∈ r.registered) :
      Fate m r r' a { a with session := s' }
  /-- A pending call takes it out of the register and waits for it to be torn down. -/
  | taken {call : Nat} (fresh : r.nextCall ≤ call) (counted : call < r'.nextCall)
      (there : a.name ∈ r.registered) (gone : a.name ∉ r'.registered)
      (awaited : ∃ c ∈ r'.pending, (a.name, call) ∈ c.waits) (env : r'.env = r.env) :
      Fate m r r' a { a with session := a.session.beginTeardown call r.env.now }
  /-- Its own task takes it out of the register and waits for it to be torn down. -/
  | left {call : Nat} (fresh : r.nextCall ≤ call) (counted : call < r'.nextCall)
      (there : a.name ∈ r.registered) (gone : a.name ∉ r'.registered) (env : r'.env = r.env) :
      Fate m r r' a
        { a with
          session := a.session.beginTeardown call r.env.now
          attendance := .removing call }
  /-- Its own task finds it out of the register, or has waited for it long enough. -/
  | parted (ended : a.name ∉ r.registered ∧ a.attendance = .attending ∨
        ∃ call, a.attendance = .removing call ∧ r.teardownOver a.name call = true)
      (listed : a.name ∈ r'.registered ↔ a.name ∈ r.registered) (env : r'.env = r.env) :
      Fate m r r' a { a with attendance := .done }
  /-- It is called to be torn down past the register. -/
  | called {call : Nat} (past : m.viaRegister = false) (fresh : r.nextCall ≤ call)
      (counted : call < r'.nextCall)
      (listed : a.name ∈ r'.registered ↔ a.name ∈ r.registered) (env : r'.env = r.env) :
      Fate m r r' a { a with session := a.session.beginTeardown call r.env.now }

namespace Fate

variable {a a' : Attached}

/-- A session to which nothing happens goes on. -/
theorem rested (listed : a.name ∈ r'.registered ↔ a.name ∈ r.registered) : Fate m r r' a a :=
  .went (n := .outside r'.env) (fun _ => nofun) rfl listed

/-- A session keeps its name. -/
theorem name (fate : Fate m r r' a a') : a'.name = a.name := by
  cases fate <;> rfl

/-- Whatever becomes of a session, it is a move of it. -/
theorem move (fate : Fate m r r' a a') (counted : ∀ call ∈ a.session.calls, call < r.nextCall) :
    ∃ n, a.session.move r.env n = some (a'.session, r'.env) := by
  -- A number that is still to be given is not that of any call.
  have begins {call : Nat} (fresh : r.nextCall ≤ call) :
      a.session.move r.env (.teardown call) =
        some (a.session.beginTeardown call r.env.now, r.env) := by
    have free : call ∉ a.session.calls := fun taken =>
      absurd (counted call taken) (by omega)
    simp [Session.move, Session.teardown?_eq_none free]
  -- A fate is a move of the session: its own, a call to end, or what comes from outside.
  cases fate with
  | went _ moved _ => exact ⟨_, moved⟩
  | taken fresh _ _ _ _ env | left fresh _ _ _ env | called _ fresh _ _ env =>
    exact ⟨_, (begins fresh).trans (by rw [env])⟩
  | parted _ _ env => exact ⟨.outside r'.env, rfl⟩

end Fate

/-- What one move of the relay does to its calls. -/
structure Ledger (r r' : Relay) : Prop where
  /-- A call is pending until it is over. -/
  pending : ∀ c ∈ r.pending, c ∈ r'.pending ∨ r.isOver c = true
  /-- A new call has a tag that was free. -/
  tagged : ∀ c ∈ r'.pending, c ∈ r.pending ∨ r.isFree c.tag = true
  /-- A call that has returned was over. -/
  returned : ∀ tag, r'.hasReturned tag = true →
    r.hasReturned tag = true ∨ ∃ c ∈ r.pending, c.tag = tag ∧ r.isOver c = true

/-- What one move of the relay does, its sessions one by one. -/
structure Turn (m : Move) (r r' : Relay) (f : Attached → Attached) (added : List Attached) :
    Prop where
  sessions : r'.sessions = r.sessions.map f ++ added
  fates : ∀ a ∈ r.sessions, Fate m r r' a (f a)
  /-- At most one session is added, and it has just started and is in the register. -/
  sole : added.length ≤ 1
  starts : ∀ a ∈ added, a.name ∉ r.names ∧ a.name ∈ r'.registered ∧
    Session.Begins a.session ∧
    (a.attendance = .attending ∨ a.attendance = .none)
  once : r.registered.Nodup → r'.registered.Nodup
  listed : ∀ name ∈ r'.registered, name ∈ r.registered ∨ name ∈ added.map (·.name)
  counted : r.nextCall ≤ r'.nextCall
  ledger : Ledger r r'

namespace Ledger

/-- The calls may be left alone. -/
theorem same (pending : r'.pending = r.pending) (returned : r'.returned = r.returned) :
    Ledger r r' := by
  -- Nothing is called and nothing returns.
  refine ⟨fun c among => .inl (pending ▸ among), fun c among => .inl (pending ▸ among),
    fun tag back => .inl ?_⟩
  rwa [hasReturned, returned] at back

/-- A call may begin. -/
theorem join {c : PendingCall} (free : r.isFree c.tag = true)
    (pending : r'.pending = r.pending ++ [c]) (returned : r'.returned = r.returned) :
    Ledger r r' := by
  -- One call joins, under a number that is free.
  refine ⟨fun d among => .inl (pending ▸ List.mem_append_left _ among), fun d among => ?_,
    fun tag back => .inl ?_⟩
  · rw [pending] at among
    rcases List.mem_append.mp among with old | new
    · exact .inl old
    · rw [List.mem_singleton.mp new]
      exact .inr free
  · rwa [hasReturned, returned] at back

/-- Calls that are over may return. -/
theorem returnCalls (r : Relay) : Ledger r r.returnCalls := by
  -- The calls that are over are taken out and return, and the others wait on.
  unfold Relay.returnCalls
  dsimp only
  split
  · exact same rfl rfl
  · refine ⟨fun c among => ?_, fun c among => .inl (List.mem_of_mem_filter among),
      fun tag back => ?_⟩
    · cases ended : r.isOver c with
      | true => exact .inr rfl
      | false => exact .inl (List.mem_filter.mpr ⟨among, by simp [ended]⟩)
    · -- What has returned has done so before, or is one of those that are over now.
      simp only [hasReturned, List.foldl_push_eq_append, Array.any_append, Bool.or_eq_true,
        List.any_toArray, List.any_map, List.any_eq_true, List.mem_filter] at back
      refine back.imp id fun ⟨c, ⟨among, ended⟩, same⟩ => ⟨c, among, ?_, ended⟩
      simpa using same

end Ledger

/-- A move without a new session. -/
theorem Turn.quiet {f : Attached → Attached} (sessions : r'.sessions = r.sessions.map f)
    (fates : ∀ a ∈ r.sessions, Fate m r r' a (f a))
    (registered : r'.registered.Sublist r.registered) (counted : r.nextCall ≤ r'.nextCall)
    -- Nothing is added, so all sessions are those from before in new states.
    (ledger : Ledger r r') : Turn m r r' f [] where
  sessions := by rw [sessions, List.append_nil]
  fates := fates
  sole := Nat.zero_le _
  starts := fun _ among => by cases among
  once := registered.nodup
  listed := fun _ among => .inl (registered.subset among)
  counted := counted
  ledger := ledger

/-- What is known of a relay in any run. -/
structure Hosts (r : Relay) : Prop where
  distinct : r.names.Nodup
  /-- Every session lives a run of its own. -/
  lives : ∀ a ∈ r.sessions, ∃ s₀ e₀ past, Session.Begins s₀ ∧
    Session.Run s₀ e₀ past a.session r.env
  /-- The calls are numbered in order. -/
  counted : ∀ a ∈ r.sessions, ∀ call ∈ a.session.calls, call < r.nextCall
  listed : ∀ name ∈ r.registered, name ∈ r.names
  once : r.registered.Nodup

/-! ### Sessions by name -/

/-- Sessions with names of their own are found by them. -/
theorem Hosts.attached? (hosts : r.Hosts) {a : Attached} (among : a ∈ r.sessions) :
    r.attached? a.name = some a := by
  obtain ⟨b, found⟩ : ∃ b, r.attached? a.name = some b :=
    Option.isSome_iff_exists.mp (List.find?_isSome.mpr ⟨a, among, by simp⟩)
  have same : b.name = a.name := by simpa using List.find?_some found
  -- No other session has the name.
  rw [found, List.inj_on_of_nodup_map hosts.distinct (List.mem_of_find?_eq_some found) among same]

/-- So are their states. -/
theorem Hosts.session? (hosts : r.Hosts) {a : Attached} (among : a ∈ r.sessions) :
    r.session? a.name = some a.session :=
  congrArg (Option.map Attached.session) (hosts.attached? among)

/-- A session with the name that is given, for a call with a number. -/
def begun (calls : List (String × Nat)) (now : Nat) (a : Attached) : Attached :=
  match calls.lookup a.name with
  | some call => { a with session := a.session.beginTeardown call now }
  | none => a

/-- A session without a call is left as it is. -/
theorem begun_of_absent {calls : List (String × Nat)} {a : Attached}
    (absent : a.name ∉ calls.map (·.1)) (now : Nat) : begun calls now a = a := by
  -- Only sessions that are named are called to end.
  have none : calls.lookup a.name = none := by
    refine List.lookup_eq_none_iff.mpr fun entry among => ?_
    have other : entry.1 ≠ a.name := fun same => absent (same ▸ List.mem_map_of_mem among)
    simpa using Ne.symm other
  simp [begun, none]

/-- A session with a call has begun to be torn down by it. -/
theorem begun_of_named {calls : List (String × Nat)} {a : Attached}
    (named : a.name ∈ calls.map (·.1)) (now : Nat) : ∃ call, (a.name, call) ∈ calls ∧
      begun calls now a = { a with session := a.session.beginTeardown call now } := by
  -- Its name is looked up among those that are called, and found.
  unfold begun
  cases found : calls.lookup a.name with
  | none =>
    obtain ⟨entry, among, same⟩ := List.mem_map.mp named
    have other := List.lookup_eq_none_iff.mp found entry among
    simp [same] at other
  | some call =>
    obtain ⟨before, after, split, -⟩ := List.lookup_eq_some_iff.mp found
    exact ⟨call, split ▸ List.mem_append_right _ (List.mem_cons_self ..), rfl⟩

/-- A session with a call has the one that is given for it first. -/
theorem begun_cons (name : String) (call : Nat) (later : List (String × Nat)) (now : Nat)
    (a : Attached) : begun ((name, call) :: later) now a =
      if a.name = name then { a with session := a.session.beginTeardown call now }
      else begun later now a := by
  -- The first entry is looked at first.
  unfold begun
  rw [List.lookup_cons]
  by_cases same : a.name = name
  · simp [same]
  · have other : (a.name == name) = false := by simpa using same
    simp [other, same]

/-- Calls for some sessions begin to tear down these, and are numbered on. -/
theorem beginTeardowns_spec {names : List String} (once : names.Nodup) :
    (r.beginTeardowns names).1.map (·.1) = names ∧
    (∀ entry ∈ (r.beginTeardowns names).1,
      r.nextCall ≤ entry.2 ∧ entry.2 < r.nextCall + names.length) ∧
    (r.beginTeardowns names).2 =
      { r with
        sessions := r.sessions.map (begun (r.beginTeardowns names).1 r.env.now)
        nextCall := r.nextCall + names.length } := by
  -- The induction is on the names, which are called one after the other.
  induction names generalizing r with
  | nil =>
    refine ⟨rfl, by simp [beginTeardowns], ?_⟩
    have same : r.sessions.map (begun [] r.env.now) = r.sessions := List.map_id _
    simp [beginTeardowns, same]
  | cons name rest ih =>
    -- The others are called from where the first call leads.
    obtain ⟨other, once⟩ := List.nodup_cons.mp once
    obtain ⟨named, counted, leads⟩ := ih (r := (r.beginTeardown name).2) once
    have waits : (r.beginTeardowns (name :: rest)).1 =
        (name, r.nextCall) :: ((r.beginTeardown name).2.beginTeardowns rest).1 := rfl
    have next : (r.beginTeardown name).2.nextCall = r.nextCall + 1 := rfl
    rw [next] at counted
    refine ⟨by rw [waits, List.map_cons, named], fun entry among => ?_, ?_⟩
    · rw [waits] at among
      rw [List.length_cons]
      rcases List.mem_cons.mp among with rfl | later
      · exact ⟨Nat.le_refl _, by omega⟩
      · have := counted entry later
        omega
    · generalize ((r.beginTeardown name).2.beginTeardowns rest).1 = later at named waits leads
      -- The first one called is not called again.
      have first : r.sessions.map (begun ((name, r.nextCall) :: later) r.env.now) =
          (r.beginTeardown name).2.sessions.map (begun later r.env.now) := by
        rw [beginTeardown, modifySession, modifyAttached, List.map_map]
        refine List.map_congr_left fun a _ => ?_
        rw [begun_cons, Function.comp_apply]
        by_cases own : a.name = name
        · rw [if_pos own, if_pos own, begun_of_absent]
          rw [named]
          exact own ▸ other
        · rw [if_neg own, if_neg own]
      show ((r.beginTeardown name).2.beginTeardowns rest).2 = _
      rw [leads, waits, first, next, List.length_cons, Nat.add_right_comm, Nat.add_assoc]
      rfl

/-! ### What each move does -/

/-- Changing the session with a name leaves every other one to rest. -/
theorem fates_of_named {name : String} {g : Attached → Attached}
    (listed : ∀ x, x ≠ name → (x ∈ r'.registered ↔ x ∈ r.registered))
    (fate : ∀ a ∈ r.sessions, a.name = name → Fate m r r' a (g a)) :
    ∀ a ∈ r.sessions, Fate m r r' a (if a.name = name then g a else a) := by
  -- Only the session of this name has a fate of its own.
  intro a among
  split
  · next own => exact fate a among own
  · next other => exact .rested (listed a.name other)

/-- A session that starts under a new name comes behind the others. -/
theorem start?_some {name : String} {credentials : Credentials} {wire : WireState}
    {attendance : Attendance} {prepare : Session → Session} (fresh : name ∉ r.names)
    (starts : r.start? name credentials wire attendance prepare = some r') :
    r' = { r with
      sessions := r.sessions ++ [⟨name, prepare (.start r.config credentials wire r.env.now
        r.shuttingDown), attendance⟩]
      env := r.env.count .sessionStarted } := by
  -- No session that is there has the name.
  have all : r.sessions.filter (fun a => a.name != name) = r.sessions := by
    refine List.filter_eq_self.mpr fun a among => ?_
    have other : a.name ≠ name := fun same => fresh (same ▸ List.mem_map_of_mem among)
    simpa using other
  simp only [start?, all, Option.ite_none_right_eq_some] at starts
  exact (Option.some.inj starts.2).symm

/-- A client connects. -/
theorem connect_turn {name : String} {credentials : Credentials} {wire : WireState}
    {attended : Bool} (moved : r.move (.connect name credentials wire attended) = some r') :
    ∃ a, Turn (.connect name credentials wire attended) r r' id [a] ∧ a.name = name := by
  simp only [move] at moved
  split at moved
  · cases moved
  · next fresh =>
    have fresh : name ∉ r.names := by simpa using fresh
    obtain ⟨r₁, starts, rfl⟩ := Option.map_eq_some_iff.mp moved
    obtain rfl := start?_some fresh starts
    -- The new session is the last one, in the list and in the register.
    refine ⟨_, ⟨by rw [List.map_id]; rfl, fun a among => .rested ?_, Nat.le_refl _,
      -- The name is fresh, so no other session is touched.
      fun a new => ?_, fun once => ?_, fun x named => ?_, Nat.le_refl _, .same rfl rfl⟩, rfl⟩
    · have other : a.name ≠ name := fun same => fresh (same ▸ List.mem_map_of_mem among)
      simp [register, other]
    -- The new session begins, with or without a task of its own.
    · obtain rfl := List.mem_singleton.mp new
      refine ⟨fresh, by simp [register], .attended .., ?_⟩
      cases attended
      · exact .inr rfl
      · exact .inl rfl
    -- Its name stands once in the register, as it was taken out before.
    · refine List.nodup_append.mpr ⟨once.filter _, by simp, fun x old y new => ?_⟩
      have other : x ≠ name := by simpa using (List.mem_filter.mp old).2
      exact List.mem_singleton.mp new ▸ other
    · rcases List.mem_append.mp named with old | new
      · exact .inl (List.mem_of_mem_filter old)
      · exact .inr new

/-- Something happens in a session. -/
theorem session_turn (hosts : r.Hosts) {name : String} {n : Session.Move}
    (moved : r.move (.session name n) = some r') : ∃ f, Turn (.session name n) r r' f [] := by
  simp only [move] at moved
  split at moved
  · next own =>
    obtain ⟨s, found, moved⟩ := Option.bind_eq_some_iff.mp moved
    obtain ⟨⟨s', env⟩, acts, same⟩ := Option.bind_eq_some_iff.mp moved
    obtain rfl := Option.some.inj same
    refine ⟨_, .quiet rfl ?_ (List.Sublist.refl _) (Nat.le_refl _) (.same rfl rfl)⟩
    refine fates_of_named (fun _ _ => Iff.rfl) fun a among named => ?_
    -- The session that is found by the name is the one that moves.
    obtain rfl : s = a.session := by
      rw [← named, hosts.session? among] at found
      exact (Option.some.inj found).symm
    refine .went (fun call same => ?_) acts Iff.rfl
    rw [same] at own
    cases own
  · cases moved

/-- The task that attends a session takes a step. -/
theorem attend_turn (hosts : r.Hosts) {name : String}
    (moved : r.move (.attend name) = some r') : ∃ f, Turn (.attend name) r r' f [] := by
  obtain ⟨a, found, attends⟩ := Option.bind_eq_some_iff.mp moved
  obtain rfl : a.name = name := by simpa using List.find?_some found
  have among : a ∈ r.sessions := List.mem_of_find?_eq_some found
  -- Names are given once, so the session found is the only one of its name.
  have only {b : Attached} (among' : b ∈ r.sessions) (same : b.name = a.name) : b = a :=
    List.inj_on_of_nodup_map hosts.distinct among' among same
  unfold attend at attends
  split at attends
  · next attending =>
    split at attends
    · -- The event loop is over.
      -- The session is in the register or was taken out by another call.
      split at attends
      · next there =>
        have there : a.name ∈ r.registered := by simpa using there
        obtain rfl := Option.some.inj attends
        refine ⟨fun b => if b.name = a.name then
            { b with
              session := b.session.beginTeardown r.nextCall r.env.now
              attendance := .removing r.nextCall }
            else b, .quiet ?_ ?_ List.filter_sublist (Nat.le_succ _) (.same rfl rfl)⟩
        · -- It is called to end first, and then its task waits for that; the two changes are one.
          simp only [modifySession, modifyAttached, List.map_map]
          refine List.map_congr_left fun b _ => ?_
          by_cases own : b.name = a.name <;> simp [own]
        · refine fates_of_named (fun x other => ?_) fun b among' same => ?_
          · exact ⟨List.mem_of_mem_filter, fun old =>
              List.mem_filter.mpr ⟨old, by simpa using other⟩⟩
          · obtain rfl := only among' same
            refine .left (Nat.le_refl _) (Nat.lt_succ_self _) there (fun still => ?_) rfl
            simpa using (List.mem_filter.mp still).2
      · next gone =>
        obtain rfl := Option.some.inj attends
        refine ⟨_, .quiet rfl ?_ (List.Sublist.refl _) (Nat.le_refl _) (.same rfl rfl)⟩
        refine fates_of_named (fun _ _ => Iff.rfl) fun b among' same => ?_
        obtain rfl := only among' same
        exact .parted (.inl ⟨by simpa using gone, attending⟩) Iff.rfl rfl
    · cases attends
  · next call removing =>
    -- The task waits until its call is over.
    split at attends
    · next ended =>
      obtain rfl := Option.some.inj attends
      refine ⟨_, .quiet rfl ?_ (List.Sublist.refl _) (Nat.le_refl _) (.same rfl rfl)⟩
      refine fates_of_named (fun _ _ => Iff.rfl) fun b among' same => ?_
      obtain rfl := only among' same
      exact .parted (.inr ⟨call, removing, ended⟩) Iff.rfl rfl
    · cases attends
  · cases attends
  · cases attends

/-- Shutdown is requested: every session is told to end. -/
theorem shutdown_turn (r : Relay) : ∃ f, Turn .shutdown r r.shutdown f [] :=
  ⟨_, .quiet rfl (fun _ _ => .went (n := .cancel) (fun _ => nofun) rfl Iff.rfl)
    (List.Sublist.refl _) (Nat.le_refl _) (.same rfl rfl)⟩

/-- A session is called to be torn down, past the register. -/
theorem teardown_turn {tag : Nat} {name : String} (free : r.isFree tag = true) :
    ∃ f, Turn (.teardown tag name) r (r.callTeardown tag name) f [] := by
  -- The session is called to end and stays where it is listed.
  refine ⟨_, .quiet rfl ?_ (List.Sublist.refl _) (Nat.le_succ _) (.join free rfl rfl)⟩
  exact fates_of_named (fun _ _ => Iff.rfl) fun a _ _ =>
    .called rfl (Nat.le_refl _) (Nat.lt_succ_self _) Iff.rfl rfl

/-- A session is called to be taken out of the register and torn down. -/
theorem unregister_turn {tag : Nat} {name : String} (free : r.isFree tag = true) :
    ∃ f, Turn (.unregister tag name) r (r.callUnregister tag name) f [] := by
  unfold callUnregister
  split
  · next there =>
    have there : name ∈ r.registered := by simpa using there
    -- The session is taken out of the register, and its call waits for it.
    refine ⟨_, .quiet rfl ?_ List.filter_sublist (Nat.le_succ _) (.join free rfl rfl)⟩
    refine fates_of_named (fun x other => ?_) fun a _ own => ?_
    · exact ⟨List.mem_of_mem_filter, fun old =>
        List.mem_filter.mpr ⟨old, by simpa using other⟩⟩
    · refine .taken (Nat.le_refl _) (Nat.lt_succ_self _) (own ▸ there) (fun still => ?_)
        ⟨_, List.mem_append_right _ (List.mem_singleton_self _), by simp [own, beginTeardown]⟩
          rfl
      simpa [own] using (List.mem_filter.mp still).2
  · -- The session is out of the register already, and nothing happens to it.
    exact ⟨id, .quiet (List.map_id _).symm (fun _ _ => .rested Iff.rfl) (List.Sublist.refl _)
      (Nat.le_refl _) (.join free rfl rfl)⟩

/-- All sessions in the register are called to be taken out of it and torn down. -/
theorem closeAll_turn (hosts : r.Hosts) {tag : Nat} (free : r.isFree tag = true) :
    ∃ f, Turn (.closeAll tag) r (r.callCloseAll tag) f [] := by
  obtain ⟨named, counted, leads⟩ :=
    beginTeardowns_spec (r := { r with registered := [] }) hosts.once
  unfold callCloseAll
  generalize ({ r with registered := [] } : Relay).beginTeardowns r.registered = begins at *
  obtain ⟨waits, r'⟩ := begins
  dsimp only at named counted leads
  subst leads
  refine ⟨_, .quiet rfl (fun a among => ?_) (List.nil_sublist _) (Nat.le_add_right ..)
    (.join free rfl rfl)⟩
  -- The sessions in the register are those that are called, and the others are left alone.
  by_cases there : a.name ∈ r.registered
  · obtain ⟨call, entry, same⟩ := begun_of_named (named.symm ▸ there) r.env.now
    obtain ⟨fresh, within⟩ := counted _ entry
    rw [same]
    exact .taken fresh within there List.not_mem_nil
      ⟨_, List.mem_append_right _ (List.mem_singleton_self _), entry⟩ rfl
  · rw [begun_of_absent (named.symm ▸ there)]
    exact .rested ⟨nofun, fun still => absurd still there⟩

/-- Calls that return leave the sessions as they are. -/
theorem returnCalls_turn (r : Relay) : Turn .returnCalls r r.returnCalls id [] := by
  -- Returning concerns only the calls.
  have same : r.returnCalls.sessions = r.sessions ∧ r.returnCalls.registered = r.registered ∧
      r.returnCalls.nextCall = r.nextCall := by
    unfold returnCalls
    dsimp only
    split <;> exact ⟨rfl, rfl, rfl⟩
  obtain ⟨sessions, registered, counted⟩ := same
  refine .quiet (by rw [sessions, List.map_id]) (fun _ _ => .rested (by rw [registered])) ?_
    (Nat.le_of_eq counted.symm) (.returnCalls r)
  rw [registered]

/-- Every move of the relay is a turn of its sessions. -/
theorem move_turn (hosts : r.Hosts) (moved : r.move m = some r') :
    ∃ f added, Turn m r r' f added := by
  -- Each kind of move has its turn. Those with a number are made only if it is free.
  cases m with
  | connect name credentials wire attended =>
    obtain ⟨a, turn, -⟩ := connect_turn moved
    exact ⟨_, _, turn⟩
  | session name n => exact (session_turn hosts moved).imp fun f turn => ⟨_, turn⟩
  | attend name => exact (attend_turn hosts moved).imp fun f turn => ⟨_, turn⟩
  | shutdown =>
    obtain rfl := Option.some.inj moved
    exact (shutdown_turn r).imp fun f turn => ⟨_, turn⟩
  | teardown tag name =>
    simp only [move, Option.ite_none_right_eq_some, Option.some.injEq] at moved
    obtain ⟨free, rfl⟩ := moved
    exact (teardown_turn free).imp fun f turn => ⟨_, turn⟩
  | unregister tag name =>
    simp only [move, Option.ite_none_right_eq_some, Option.some.injEq] at moved
    obtain ⟨free, rfl⟩ := moved
    exact (unregister_turn free).imp fun f turn => ⟨_, turn⟩
  | closeAll tag =>
    simp only [move, Option.ite_none_right_eq_some, Option.some.injEq] at moved
    obtain ⟨free, rfl⟩ := moved
    exact (closeAll_turn hosts free).imp fun f turn => ⟨_, turn⟩
  | returnCalls =>
    obtain rfl := Option.some.inj moved
    exact ⟨_, _, returnCalls_turn r⟩
  | outside env =>
    obtain rfl := Option.some.inj moved
    exact ⟨id, [], .quiet (List.map_id _).symm (fun _ _ => .rested Iff.rfl) (List.Sublist.refl _)
      (Nat.le_refl _) (.same rfl rfl)⟩

/-! ### Every session lives a run of its own -/

/-- The runners of every session are numbered by their places. -/
theorem Hosts.numbered (hosts : r.Hosts) {a : Attached} (among : a ∈ r.sessions) :
    a.session.Numbered := by
  obtain ⟨s₀, e₀, past, begins, run⟩ := hosts.lives a among
  exact (run.sound begins).numbered

/-- Every session's calls are as they were, or the next one has begun. -/
theorem Fate.calls {a a' : Attached} (fate : Fate m r r' a a') (numbered : a.session.Numbered) :
    a'.session.calls = a.session.calls ∨ ∃ call, r.nextCall ≤ call ∧ call < r'.nextCall ∧
      a'.session.calls = a.session.calls ++ [call] := by
  -- A session is called to end at most once in a move, under a number given in it.
  cases fate with
  | went quiet moved _ => exact .inl ((Session.move_moves moved).calls numbered quiet)
  | parted _ _ _ => exact .inl rfl
  | taken fresh within _ _ _ _ | left fresh within _ _ _ | called _ fresh within _ _ =>
    exact .inr ⟨_, fresh, within, Session.calls_beginTeardown ..⟩

namespace Turn

variable {f : Attached → Attached} {added : List Attached}

/-- A session after a move was there before, or has just started. -/
theorem cases (turn : Turn m r r' f added) {a' : Attached} (among : a' ∈ r'.sessions) :
    (∃ a ∈ r.sessions, a.name = a'.name ∧ Fate m r r' a a') ∨ a' ∈ added := by
  rw [turn.sessions] at among
  -- The sessions are those from before in their order, and behind them what is added.
  refine (List.mem_append.mp among).imp (fun old => ?_) id
  obtain ⟨a, before, rfl⟩ := List.mem_map.mp old
  have fate := turn.fates a before
  exact ⟨a, before, fate.name.symm, fate⟩

/-- The names stay, and those of new sessions are added. -/
theorem names (turn : Turn m r r' f added) : r'.names = r.names ++ added.map (·.name) := by
  -- A fate keeps the name.
  simp only [Relay.names, turn.sessions, List.map_append, List.map_map]
  congr 1
  exact List.map_congr_left fun a among => (turn.fates a among).name

/-- There is at most one new name. -/
theorem sole_name (turn : Turn m r r' f added) : (added.map (·.name)).Nodup := by
  -- At most one session is added.
  have sole := turn.sole
  cases added with
  | nil => exact List.nodup_nil
  | cons a rest =>
    obtain rfl : rest = [] := by simpa using sole
    exact List.nodup_singleton _

/-- What is known of a relay is known after a move. -/
theorem hosts (hosts : r.Hosts) (turn : Turn m r r' f added) : r'.Hosts := by
  have fresh (a : Attached) (new : a ∈ added) := turn.starts a new
  refine ⟨?_, fun a' among => ?_, fun a' among call called => ?_, fun name named => ?_,
    turn.once hosts.once⟩
  -- The name of a new session is fresh.
  · rw [turn.names]
    refine List.nodup_append.mpr ⟨hosts.distinct, turn.sole_name, fun x old y new => ?_⟩
    obtain ⟨a, there, rfl⟩ := List.mem_map.mp new
    exact fun same => (fresh a there).1 (same ▸ old)
  · -- The run of a session goes on by one move, and a new one begins.
    rcases turn.cases among with ⟨a, before, -, fate⟩ | new
    · obtain ⟨s₀, e₀, past, begins, run⟩ := hosts.lives a before
      obtain ⟨m, moved⟩ := fate.move (hosts.counted a before)
      exact ⟨s₀, e₀, _, begins, run.next moved⟩
    · exact ⟨_, _, [], (fresh a' new).2.2.1, .start⟩
  · -- A call that begins has the number that was next.
    rcases turn.cases among with ⟨a, before, -, fate⟩ | new
    · have counted := hosts.counted a before
      rcases fate.calls (hosts.numbered before) with same | ⟨own, -, within, more⟩
      · exact Nat.lt_of_lt_of_le (counted call (same ▸ called)) turn.counted
      · rw [more] at called
        rcases List.mem_append.mp called with old | new
        · exact Nat.lt_of_lt_of_le (counted call old) turn.counted
        · exact List.mem_singleton.mp new ▸ within
    · rw [(fresh a' new).2.2.1.calls] at called
      cases called
  -- The register lists sessions from before and the one that is added.
  · rw [turn.names]
    rcases turn.listed name named with old | new
    · exact List.mem_append_left _ (hosts.listed name old)
    · exact List.mem_append_right _ new

end Turn

/-- A relay without sessions has none to know of. -/
theorem new_hosts (config : Config) (source : Source) : (new config source).Hosts where
  distinct := List.nodup_nil
  lives := fun _ among => by cases among
  counted := fun _ among => by cases among
  listed := fun _ named => by cases named
  once := List.nodup_nil

end Relay

end WatchRelay
