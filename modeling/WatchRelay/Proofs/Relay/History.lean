import WatchRelay.Proofs.Relay.Turns
import WatchRelay.Proofs.Trace

/-! Histories of a relay: sessions start in the register or out of it, are put into it, go on by
themselves and are taken out of it, all in any order. -/

namespace WatchRelay

/-- What becomes of the event loop of a session that starts out of the register. -/
inductive LoopUse where
  | run
  /-- Nobody runs it. -/
  | leave
  /-- It is given up before it runs. -/
  | discard

/-- Sets up the event loop of a session that starts. -/
def LoopUse.prepare : LoopUse → Session → Session
  | .run => id
  | .leave => Session.idleLoop
  | .discard => Session.discardLoop

namespace Relay

/-- What is done with a relay or happens to it, one thing at a time. -/
inductive Act where
  | move (move : Move)
  /-- A session, with a name of its own, starts out of the register. -/
  | start (name : String) (credentials : Credentials) (wire : WireState) (use : LoopUse)
  /-- A session that no task attends is put into the register. From then on a task of its own
  attends it, or still nobody does. -/
  | add (name : String) (attended : Bool)

/-- What an act leads to, if it can be done. -/
def act (r : Relay) : Act → Option Relay
  | .move m => r.move m
  | .start name credentials wire use =>
    if r.names.contains name then none
    else r.start? name credentials wire .none use.prepare
  | .add name attended =>
    if r.sessions.any fun a => a.name == name && a.attendance == .none then
      some ((r.register name).modifyAttached name fun a =>
        { a with attendance := if attended then .attending else .none })
    else none

/-- An act, and the relay it met. -/
abbrev Entry := Trace.Entry Relay Act

variable {r r' : Relay} {x : Act} {past : List Entry}

/-- What every session that starts begins as. -/
theorem begins_prepare (use : LoopUse) (config : Config) (credentials : Credentials)
    (wire : WireState) (now : Nat) (cancelled : Bool) :
    Session.Begins (use.prepare (.start config credentials wire now cancelled)) := by
  -- Each use of the loop prepares one of the ways a session begins.
  cases use with
  | run => exact .attended ..
  | leave => exact .idle ..
  | discard => exact .discarded ..

/-! ### What each act does -/

/-- The relay with a session that has just started. -/
def hosting (r : Relay) (a : Attached) : Relay :=
  { r with sessions := r.sessions ++ [a], env := r.env.count .sessionStarted }

/-- The relay with a session put into the register, which a task attends from then on, or nobody. -/
def adopting (r : Relay) (name : String) (attended : Bool) : Relay :=
  (r.register name).modifyAttached name fun a =>
    { a with attendance := if attended then .attending else .none }

/-- What each act does, where it can be done. -/
inductive Acts (r : Relay) : Act → Relay → Prop where
  | started {a : Attached} {credentials : Credentials} {wire : WireState} {use : LoopUse}
      (fresh : a.name ∉ r.names) (begins : Session.Begins a.session)
      (alone : a.attendance = .none) :
      Acts r (.start a.name credentials wire use) (r.hosting a)
  | added {a : Attached} {attended : Bool} (among : a ∈ r.sessions)
      (alone : a.attendance = .none) :
      Acts r (.add a.name attended) (r.adopting a.name attended)
  | connected {a : Attached} {credentials : Credentials} {wire : WireState} {attended : Bool}
      (fresh : a.name ∉ r.names) (begins : Session.Begins a.session)
      (present : a.attendance = .attending ∨ a.attendance = .none) :
      Acts r (.move (.connect a.name credentials wire attended)) ((r.hosting a).register a.name)
  | moved {name : String} {s s' : Session} {m : Session.Move} {env : Surroundings}
      (own : m.isOwn = true) (found : r.session? name = some s)
      (moved : s.move r.env m = some (s', env)) :
      Acts r (.move (.session name m)) (({ r with env }).modifySession name fun _ => s')
  /-- The task that attends a session takes it out of the register, for its event loop is over, and
  waits for it to be torn down. -/
  | left {a : Attached} (found : r.attached? a.name = some a)
      (attending : a.attendance = .attending) (halted : a.session.loopFinished = true)
      (there : a.name ∈ r.registered) :
      Acts r (.move (.attend a.name))
        (({ r with registered := r.registered.filter (· != a.name) } : Relay).beginTeardown
          a.name |>.2.modifyAttached a.name fun b => { b with attendance := .removing r.nextCall })
  /-- The task finds it out of the register, or has waited for it long enough. -/
  | parted {a : Attached} (found : r.attached? a.name = some a)
      (ended : (a.attendance = .attending ∧ a.session.loopFinished = true ∧
          a.name ∉ r.registered) ∨
        ∃ call, a.attendance = .removing call ∧ r.teardownOver a.name call = true) :
      Acts r (.move (.attend a.name))
        (r.modifyAttached a.name fun b => { b with attendance := .done })
  | shutdown : Acts r (.move .shutdown) r.shutdown
  | teardown {tag : Nat} {name : String} (free : r.isFree tag = true) :
      Acts r (.move (.teardown tag name)) (r.callTeardown tag name)
  | unregister {tag : Nat} {name : String} (free : r.isFree tag = true) :
      Acts r (.move (.unregister tag name)) (r.callUnregister tag name)
  | closeAll {tag : Nat} (free : r.isFree tag = true) :
      Acts r (.move (.closeAll tag)) (r.callCloseAll tag)
  | returnCalls : Acts r (.move .returnCalls) r.returnCalls
  | outside (env : Surroundings) : Acts r (.move (.outside env)) { r with env }

/-- The task that attends a session takes it out of the register, or parts from it. -/
theorem attend_acts {name : String} (acted : r.act (.move (.attend name)) = some r') :
    r.Acts (.move (.attend name)) r' := by
  obtain ⟨a, found, attends⟩ := Option.bind_eq_some_iff.mp acted
  obtain rfl : a.name = name := by simpa using List.find?_some found
  unfold attend at attends
  split at attends
  · next attending =>
    -- It waits until the event loop is over.
    split at attends
    · next halted =>
      split at attends
      · next there =>
        obtain rfl := Option.some.inj attends
        exact .left found attending halted (by simpa using there)
      · next gone =>
        obtain rfl := Option.some.inj attends
        exact .parted found (.inl ⟨attending, halted, by simpa using gone⟩)
    · cases attends
  · next call removing =>
    -- It waits until its call has returned.
    split at attends
    · next halted =>
      obtain rfl := Option.some.inj attends
      exact .parted found (.inr ⟨call, removing, halted⟩)
    · cases attends
  · cases attends
  · cases attends

/-- An act that is done does what it is to do. -/
theorem act_acts (acted : r.act x = some r') : r.Acts x r' := by
  cases x with
  | start name credentials wire use =>
    simp only [act] at acted
    split at acted
    · cases acted
    · next fresh =>
      -- Under a new name nobody is replaced.
      have fresh : name ∉ r.names := by simpa using fresh
      obtain rfl := start?_some fresh acted
      exact .started (a := ⟨name, _, _⟩) fresh (begins_prepare ..) rfl
  | add name attended =>
    simp only [act, Option.ite_none_right_eq_some, List.any_eq_true, Bool.and_eq_true,
      beq_iff_eq] at acted
    obtain ⟨⟨a, among, rfl, alone⟩, same⟩ := acted
    exact Option.some.inj same ▸ .added among alone
  | move m =>
    cases m with
    | connect name credentials wire attended =>
      simp only [act, move] at acted
      split at acted
      · cases acted
      · next fresh =>
        have fresh : name ∉ r.names := by simpa using fresh
        obtain ⟨r₁, starts, rfl⟩ := Option.map_eq_some_iff.mp acted
        obtain rfl := start?_some fresh starts
        refine .connected (a := ⟨name, _, _⟩) fresh (.attended ..) ?_
        cases attended
        · exact .inr rfl
        · exact .inl rfl
    | session name m =>
      simp only [act, move, Option.ite_none_right_eq_some] at acted
      obtain ⟨own, acted⟩ := acted
      obtain ⟨s, found, acted⟩ := Option.bind_eq_some_iff.mp acted
      obtain ⟨⟨s', env⟩, moved, same⟩ := Option.bind_eq_some_iff.mp acted
      exact Option.some.inj same ▸ .moved own found moved
    | attend name => exact attend_acts acted
    | shutdown => exact Option.some.inj acted ▸ .shutdown
    | teardown tag name =>
      simp only [act, move, Option.ite_none_right_eq_some, Option.some.injEq] at acted
      exact acted.2 ▸ .teardown acted.1
    | unregister tag name =>
      simp only [act, move, Option.ite_none_right_eq_some, Option.some.injEq] at acted
      exact acted.2 ▸ .unregister acted.1
    | closeAll tag =>
      simp only [act, move, Option.ite_none_right_eq_some, Option.some.injEq] at acted
      exact acted.2 ▸ .closeAll acted.1
    | returnCalls => exact Option.some.inj acted ▸ .returnCalls
    | outside env => exact Option.some.inj acted ▸ .outside env

/-! ### What is known of the relay -/

/-- Changing an attached session leaves what the change does not touch of any of them. -/
theorem map_modifyAttached {α : Type} {g : Attached → α} {f : Attached → Attached}
    (same : ∀ a, g (f a) = g a) (r : Relay) (name : String) :
    (r.modifyAttached name f).sessions.map g = r.sessions.map g := by
  rw [modifyAttached, List.map_map]
  -- The one that is changed is the same to `g`, and the others are not changed at all.
  refine List.map_congr_left fun a _ => ?_
  rw [Function.comp_apply]
  split
  · exact same a
  · rfl

/-- Registering a name under which there is a session keeps what is known of the register. -/
theorem register_listed {name : String} (hosts : r.Hosts) (there : name ∈ r.names) :
    (∀ x ∈ (r.register name).registered, x ∈ r.names) ∧
    (r.register name).registered.Nodup := by
  -- A name that was in the register before gives way to the new entry, which comes last.
  refine ⟨fun x listed => ?_, List.nodup_append.mpr ⟨hosts.once.filter _, by simp, ?_⟩⟩
  · rcases List.mem_append.mp listed with old | new
    · exact hosts.listed x (List.mem_of_mem_filter old)
    · exact List.mem_singleton.mp new ▸ there
  · intro x old y new
    have other : x ≠ name := by simpa using (List.mem_filter.mp old).2
    exact List.mem_singleton.mp new ▸ other

/-- The name of a session that has just started comes behind the others. -/
theorem names_hosting (r : Relay) (a : Attached) : (r.hosting a).names = r.names ++ [a.name] :=
  List.map_append

/-- A session that starts out of the register keeps what is known of the relay. -/
theorem hosting_hosts {a : Attached} (hosts : r.Hosts) (fresh : a.name ∉ r.names)
    (begins : Session.Begins a.session) : (r.hosting a).Hosts := by
  refine ⟨?_, fun b among => ?_, fun b among call called => ?_, fun x listed => ?_, hosts.once⟩
  · rw [names_hosting]
    refine List.nodup_append.mpr ⟨hosts.distinct, by simp, fun x old y new => ?_⟩
    obtain rfl := List.mem_singleton.mp new
    exact fun same => fresh (same ▸ old)
  · -- The others do not notice, and the new session begins its run.
    rcases List.mem_append.mp among with old | new
    · obtain ⟨s₀, e₀, past, starts, run⟩ := hosts.lives b old
      exact ⟨s₀, e₀, _, starts, run.next (m := .outside _) rfl⟩
    · obtain rfl := List.mem_singleton.mp new
      exact ⟨_, _, [], begins, .start⟩
  · rcases List.mem_append.mp among with old | new
    · exact hosts.counted b old call called
    · obtain rfl := List.mem_singleton.mp new
      rw [begins.calls] at called
      cases called
  · rw [names_hosting]
    exact List.mem_append_left _ (hosts.listed x listed)

/-- A session that is put into the register keeps its name. -/
theorem names_adopting (r : Relay) (name : String) (attended : Bool) :
    -- Adopting changes who has the session, never its name.
    (r.adopting name attended).names = r.names := by
  rw [names, adopting, map_modifyAttached (g := Attached.name) (by intro a; rfl)]
  rfl

/-- A session that is put into the register keeps what is known of the relay. -/
theorem adopting_hosts {a : Attached} {attended : Bool} (hosts : r.Hosts)
    (among : a ∈ r.sessions) :
    (r.adopting a.name attended).Hosts := by
  obtain ⟨listed, once⟩ := register_listed hosts (List.mem_map_of_mem among)
  have names := names_adopting r a.name attended
  -- Every session is the same, attended or not.
  have before {b : Attached} (there : b ∈ (r.adopting a.name attended).sessions) :
      ∃ b₀ ∈ r.sessions, b.session = b₀.session := by
    obtain ⟨b₀, old, rfl⟩ := List.mem_map.mp there
    refine ⟨b₀, old, ?_⟩
    split <;> rfl
  refine ⟨names ▸ hosts.distinct, fun b there => ?_, fun b there => ?_, fun x named =>
    ?_, once⟩
  · obtain ⟨b₀, old, same⟩ := before there
    exact same ▸ hosts.lives b₀ old
  · obtain ⟨b₀, old, same⟩ := before there
    exact same ▸ hosts.counted b₀ old
  · exact names ▸ listed x named

/-- What is known of a relay is known after every act. -/
theorem act_hosts (hosts : r.Hosts) (acted : r.act x = some r') : r'.Hosts := by
  cases x with
  | move m =>
    -- A move of the relay is a turn of its sessions.
    obtain ⟨f, added, turn⟩ := move_turn hosts acted
    exact turn.hosts hosts
  | start name credentials wire use =>
    cases act_acts acted with
    | started fresh begins _ => exact hosting_hosts hosts fresh begins
  | add name attended =>
    cases act_acts acted with
    | added among _ => exact adopting_hosts hosts among

/-- What is known of a relay is known along every history. -/
theorem hosts_of_trace {config : Config} {source : Source}
    (run : Trace act (new config source) past r) : r.Hosts :=
  run.keeps (P := fun _ r => r.Hosts) (new_hosts config source) fun _ acted hosts =>
    act_hosts hosts acted

end Relay

end WatchRelay
