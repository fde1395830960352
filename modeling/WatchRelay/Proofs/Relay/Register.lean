import WatchRelay.Proofs.Relay.History

/-! The register of a relay: what each act puts into it and takes out of it, who has taken a session
out, and what the calls that are to take one out return. -/

namespace WatchRelay

namespace Relay

/-- The session that an act puts into the register. -/
def Act.adds? : Act → Option String
  | .move (.connect name _ _ _) | .add name _ => some name
  | _ => none

/-- The session that an act is to take out of the register, if it is there. -/
def Act.removes? : Act → Option String
  | .move (.unregister _ name) | .move (.attend name) => some name
  | _ => none

/-- The sessions that an act takes out of the register: they are in it before, and not after. -/
def takes (o : Entry) : List String :=
  match o.state.act o.move with
  | some r' => o.state.registered.filter fun name => !r'.registered.contains name
  | none => []

/-- The sessions that were put into the register, in order. -/
def added (past : List Entry) : List String := past.filterMap fun o => o.move.adds?

/-- The sessions that were taken out of the register, in order. -/
def taken (past : List Entry) : List String := past.flatMap takes

/-- Who takes a session out of the register, and waits for a call that tears it down. -/
inductive Takes (x : Act) (r' : Relay) (name : String) (call : Nat) : Prop where
  | unregister {tag : Nat} (own : x = .move (.unregister tag name))
      (waits : ⟨tag, .unregister true, [(name, call)]⟩ ∈ r'.pending)
  | closeAll {tag : Nat} {waits : List (String × Nat)} (own : x = .move (.closeAll tag))
      (pending : ⟨tag, .closeAll, waits⟩ ∈ r'.pending) (among : (name, call) ∈ waits)
  /-- The task that attends the session. -/
  | attended {a : Attached} (own : x = .move (.attend name)) (found : r'.attached? name = some a)
      (waits : a.attendance = .removing call)

variable {r r' : Relay} {x : Act} {past : List Entry}

/-- The sessions with their names, without who attends them. -/
def named (r : Relay) : List (String × Session) := r.sessions.map fun a => (a.name, a.session)

/-! ### What an act does to the register -/

/-- A session is found by its name where all sessions change and keep their names. -/
theorem attached?_map {g : Attached → Attached} (same : ∀ a, (g a).name = a.name)
    (sessions : r'.sessions = r.sessions.map g) (name : String) :
    -- The name is looked up alike, as it is never changed.
    r'.attached? name = (r.attached? name).map g := by
  rw [attached?, sessions, List.find?_map]
  simp only [Function.comp_def, same]
  rfl

/-- The session with a name is found when it is changed. -/
theorem attached?_modify {name : String} {a : Attached} {f : Attached → Attached}
    (found : r.attached? name = some a) (same : ∀ b, (f b).name = b.name) :
    (r.modifyAttached name f).attached? name = some (f a) := by
  obtain rfl : a.name = name := by simpa using List.find?_some found
  -- The change leaves all names, so that the same session is found.
  have kept : ∀ b, (if b.name = a.name then f b else b).name = b.name := by
    intro b
    split
    · exact same b
    · rfl
  rw [attached?_map kept rfl, found, Option.map_some, if_pos rfl]

/-- What an act does to the register: it puts a session into it, or takes some out of it and begins
to tear them down, or leaves it. -/
inductive Registers (r : Relay) (x : Act) (r' : Relay) : Prop where
  | added {name : String} (own : x.adds? = some name)
      (registered : r'.registered = r.registered.filter (· != name) ++ [name]) : Registers r x r'
  | kept (own : x.adds? = none) (registered : r'.registered = r.registered)
      (untouched : x.removes?.isSome = true → r'.named = r.named) : Registers r x r'
  | taken {p : String → Bool} (own : x.adds? = none)
      (registered : r'.registered = r.registered.filter p)
      (takers : ∀ name ∈ r.registered, p name = false →
        ∃ call s, r.session? name = some s ∧
        r.nextCall ≤ call ∧ r'.session? name = some (s.beginTeardown call r.env.now) ∧
        Takes x r' name call)
      (gone : ∀ name, x.removes? = some name → name ∈ r.registered ∧ p name = false) :
      Registers r x r'

/-- A session is called to be taken out of the register. -/
theorem unregister_registers (hosts : r.Hosts) (tag : Nat) (name : String) :
    Registers r (.move (.unregister tag name)) (r.callUnregister tag name) := by
  unfold callUnregister
  split
  · next there =>
    have there : name ∈ r.registered := by simpa using there
    -- Only this one is taken out, and its call has the number that was next.
    refine .taken (p := (· != name)) rfl rfl (fun other listed out => ?_) fun other own => ?_
    · obtain rfl : other = name := by simpa using out
      obtain ⟨a, among, rfl⟩ := List.mem_map.mp (hosts.listed _ there)
      have found := attached?_modify (hosts.attached? among)
        (f := fun b => { b with session := b.session.beginTeardown r.nextCall r.env.now })
        fun _ => rfl
      exact ⟨r.nextCall, a.session, hosts.session? among, Nat.le_refl _,
        congrArg (Option.map Attached.session) found,
        .unregister rfl (List.mem_append_right _ (List.mem_singleton_self _))⟩
    · obtain rfl := Option.some.inj own
      exact ⟨there, by simp⟩
  · -- It is not in the register, and only the answer is noted.
    exact .kept rfl rfl fun _ => rfl

/-- All sessions in the register are called to be taken out of it. -/
theorem closeAll_registers (hosts : r.Hosts) (tag : Nat) :
    Registers r (.move (.closeAll tag)) (r.callCloseAll tag) := by
  obtain ⟨named, counted, leads⟩ :=
    beginTeardowns_spec (r := { r with registered := [] }) hosts.once
  unfold callCloseAll
  generalize ({ r with registered := [] } : Relay).beginTeardowns r.registered = begins at *
  obtain ⟨waits, r₁⟩ := begins
  dsimp only at named counted leads
  subst leads
  refine .taken (p := fun _ => false) rfl (by simp) (fun name listed _ => ?_)
    (by simp [Act.removes?])
  obtain ⟨a, among, rfl⟩ := List.mem_map.mp (hosts.listed _ listed)
  -- The session has a call of its own among those that are waited for.
  obtain ⟨call, entry, same⟩ := begun_of_named (named.symm ▸ listed) r.env.now
  have kept : ∀ b, (begun waits r.env.now b).name = b.name := by
    intro b
    unfold begun
    split <;> rfl
  refine ⟨call, a.session, hosts.session? among, (counted _ entry).1, ?_,
    .closeAll rfl (List.mem_append_right _ (List.mem_singleton_self _)) entry⟩
  rw [session?, show List.find? _ _ = _ from attached?_map kept rfl a.name, hosts.attached? among,
    Option.map_some, same]
  rfl

/-- The task that attends a session takes it out of the register. -/
theorem left_registers {a : Attached} (found : r.attached? a.name = some a)
    (there : a.name ∈ r.registered) : Registers r (.move (.attend a.name))
      (({ r with registered := r.registered.filter (· != a.name) } : Relay).beginTeardown
        a.name |>.2.modifyAttached a.name fun b =>
          { b with attendance := .removing r.nextCall }) := by
  refine .taken (p := (· != a.name)) rfl rfl (fun other listed out => ?_) fun other own => ?_
  · obtain rfl : other = a.name := by simpa using out
    -- The session is called to be torn down, and its task waits for that.
    have called := attached?_modify found
      (f := fun b => { b with session := b.session.beginTeardown r.nextCall r.env.now })
      fun _ => rfl
    have waits := attached?_modify called (f := fun b =>
      { b with attendance := .removing r.nextCall }) fun _ => rfl
    exact ⟨r.nextCall, a.session, congrArg (Option.map Attached.session) found, Nat.le_refl _,
      congrArg (Option.map Attached.session) waits, .attended rfl waits rfl⟩
  · obtain rfl := Option.some.inj own
    exact ⟨there, by simp⟩

/-- What every act does to the register. -/
theorem act_registers (hosts : r.Hosts) (acted : r.act x = some r') : Registers r x r' := by
  -- Only an addition and the takings change the register, every other act keeps it.
  cases act_acts acted with
  | added _ _ | connected _ _ _ => exact .added rfl rfl
  | left found _ _ there => exact left_registers found there
  | @parted a _ _ =>
    have parts := map_modifyAttached (g := fun b => (b.name, b.session))
      (f := fun b => { b with attendance := .done }) (fun _ => rfl) r a.name
    exact .kept rfl rfl fun _ => parts
  | unregister _ => exact unregister_registers hosts _ _
  | closeAll _ => exact closeAll_registers hosts _
  | returnCalls =>
    refine .kept rfl ?_ (by simp [Act.removes?])
    unfold Relay.returnCalls
    dsimp only
    split <;> rfl
  | started _ _ _ | moved _ _ _ | shutdown | teardown _ | outside _ =>
    exact .kept rfl rfl (by simp [Act.removes?])

/-- Taken out of the register is what is in it before an act and not after it. -/
theorem mem_takes {name : String} (acted : r.act x = some r') :
    name ∈ takes ⟨r, x⟩ ↔ name ∈ r.registered ∧ name ∉ r'.registered := by
  simp [takes, acted]

/-- A session that is called to be taken out of the register is not in it afterwards. -/
theorem gone_of_unregister (r : Relay) (tag : Nat) (name : String) :
    name ∉ (r.callUnregister tag name).registered := by
  -- A session that is there is taken out, and one that is not there was gone before.
  unfold callUnregister
  split
  · simp [beginTeardown, modifySession, modifyAttached]
  · next absent => simpa using absent

namespace Registers

/-- Whoever takes a session out of the register begins to tear it down, with a call of its own. -/
theorem takers {name : String} (hosts : r.Hosts) (registers : r.Registers x r')
    (acted : r.act x = some r') (out : name ∈ takes ⟨r, x⟩) :
    ∃ call s, r.session? name = some s ∧ call ∉ s.calls ∧
      r'.session? name = some (s.beginTeardown call r.env.now) ∧ Takes x r' name call := by
  obtain ⟨there, gone⟩ := (mem_takes acted).mp out
  cases registers with
  | @added other own registered =>
    -- Only the session that is put into the register could be missing, and it is not.
    refine absurd ?_ gone
    rw [registered, List.mem_append, List.mem_singleton, List.mem_filter]
    by_cases same : name = other
    · exact .inr same
    · exact .inl ⟨there, by simpa using same⟩
  | kept _ registered _ => exact absurd (registered ▸ there) gone
  | @taken p own registered takers _ =>
    -- It was in the register and is not any more, so the filter has dropped it.
    have left : p name = false := by
      refine Bool.eq_false_iff.mpr fun stays => gone ?_
      rw [registered]
      exact List.mem_filter.mpr ⟨there, stays⟩
    obtain ⟨call, s, found, fresh, begun, taker⟩ := takers name there left
    obtain ⟨a, attached, rfl⟩ := Option.map_eq_some_iff.mp found
    refine ⟨call, a.session, found, fun old => ?_, begun, taker⟩
    -- The calls of the session have numbers below the next one.
    have counted := hosts.counted a (List.mem_of_find?_eq_some attached) call old
    omega

/-- Who is to take a session out of the register and does not find it there touches none. -/
theorem others {name : String} (registers : r.Registers x r') (acted : r.act x = some r')
    (own : x.removes? = some name) (missed : name ∉ takes ⟨r, x⟩) :
    r'.registered = r.registered ∧ r'.named = r.named := by
  cases registers with
  | added adds _ =>
    cases x with
    | move m => cases m <;> simp_all [Act.adds?, Act.removes?]
    | _ => cases own
  | kept _ registered untouched => exact ⟨registered, untouched (by simp [own])⟩
  | @taken p _ registered _ gone =>
    obtain ⟨there, left⟩ := gone name own
    -- Where it takes one out, the one it is to take out is among them.
    refine absurd ((mem_takes acted).mpr ⟨there, ?_⟩) missed
    rw [registered]
    simp [left]

/-- What is taken out of the register and what is in it afterwards is what was in it and what was
added. -/
theorem perm (registers : r.Registers x r') (acted : r.act x = some r')
    (fresh : ∀ name, x.adds? = some name → name ∉ r.registered) :
    (takes ⟨r, x⟩ ++ r'.registered).Perm (r.registered ++ x.adds?.toList) := by
  have takes_eq : takes ⟨r, x⟩ =
      r.registered.filter fun name => !r'.registered.contains name := by
    simp [takes, acted]
  -- Where all stay in the register, none is taken.
  have none (stay : ∀ name ∈ r.registered, name ∈ r'.registered) : takes ⟨r, x⟩ = [] := by
    rw [takes_eq]
    exact List.filter_eq_nil_iff.mpr fun name there => by simp [stay name there]
  cases registers with
  | @added name own registered =>
    -- The name that is added is not in the register, so none gives way to it.
    have same : r.registered.filter (· != name) = r.registered := by
      refine List.filter_eq_self.mpr fun other there => ?_
      have differ : other ≠ name := fun same => fresh name own (same ▸ there)
      simpa using differ
    rw [same] at registered
    rw [none fun other there => registered ▸ List.mem_append_left _ there, registered, own]
    rfl
  | kept own registered _ =>
    rw [none fun other there => registered ▸ there, registered, own]
    simp
  | @taken p own registered _ _ =>
    -- What is dropped by the filter and what it leaves are the register together.
    have out : takes ⟨r, x⟩ = r.registered.filter fun name => !p name := by
      rw [takes_eq, registered]
      refine List.filter_congr fun name there => ?_
      cases keeps : p name <;> simp [there, keeps]
    rw [out, registered, own, Option.toList_none, List.append_nil]
    exact List.perm_append_comm.trans (List.filter_append_perm p r.registered)

end Registers

/-- Every session that was put into the register, and then not again, is in it or was taken out of
it once. -/
theorem taken_perm {config : Config} {source : Source}
    (run : Trace act (new config source) past r) (distinct : (added past).Nodup) :
    (taken past ++ r.registered).Perm (added past) := by
  induction run with
  | start => exact .nil
  | @next past r r' x run acted ih =>
    have adds : added (past ++ [⟨r, x⟩]) = added past ++ x.adds?.toList :=
      Trace.filterMap_concat _ past ⟨r, x⟩
    have takes : taken (past ++ [⟨r, x⟩]) = taken past ++ takes ⟨r, x⟩ := by
      simp [taken]
    rw [adds] at distinct ⊢
    obtain ⟨before, -, apart⟩ := List.nodup_append.mp distinct
    have held := ih before
    -- What is added now is not in the register yet.
    have fresh (name : String) (own : x.adds? = some name) : name ∉ r.registered := by
      intro there
      have old : name ∈ added past := held.subset (List.mem_append_right _ there)
      exact apart name old name (by simp [own]) rfl
    rw [takes, List.append_assoc]
    have step := (act_registers (hosts_of_trace run) acted).perm acted fresh
    refine (step.append_left _).trans ?_
    rw [← List.append_assoc]
    exact held.append_right _

/-! ### What the calls return -/

/-- A call is known, and what it returns, if it is one to take a session out of the register. -/
structure Answers (r : Relay) (tag : Nat) (wasRegistered : Bool) : Prop where
  known : r.isFree tag = false
  pending : ∀ c ∈ r.pending, c.tag = tag → c.kind = .unregister wasRegistered
  returned : ∀ y ∈ r.returned, y.tag = tag → y.result = .removed wasRegistered

/-- A tag is not free just if a call with it is pending or has returned. -/
theorem isFree_eq_false {tag : Nat} : r.isFree tag = false ↔
    (∃ y ∈ r.returned, y.tag = tag) ∨ ∃ c ∈ r.pending, c.tag = tag := by
  -- A tag is known from those that have returned, or from those that are pending.
  have back : r.hasReturned tag = true ↔ ∃ y ∈ r.returned, y.tag = tag := by
    simp [hasReturned, Array.mem_iff_getElem]
  rw [← back, isFree]
  cases r.hasReturned tag <;> simp

/-- What an act does to the calls: nothing, or one begins under a tag that is free, or those that
are over return. -/
inductive Books (r : Relay) (x : Act) (r' : Relay) : Prop where
  | same (pending : r'.pending = r.pending) (returned : r'.returned = r.returned)
      (other : ∀ tag name, x ≠ .move (.unregister tag name)) : Books r x r'
  | joined {c : PendingCall} (free : r.isFree c.tag = true)
      (pending : r'.pending = r.pending ++ [c])
      (returned : r'.returned = r.returned)
      (kind : ∀ tag name, x = .move (.unregister tag name) →
        c.tag = tag ∧ c.kind = .unregister (r.registered.contains name)) : Books r x r'
  | back (own : x = .move .returnCalls) (same : r' = r.returnCalls) : Books r x r'

/-- What every act does to the calls. -/
theorem act_books (hosts : r.Hosts) (acted : r.act x = some r') : Books r x r' := by
  cases act_acts acted with
  | @teardown tag name free => exact .joined (c := ⟨tag, _, _⟩) free rfl rfl (by simp)
  | @unregister tag name free =>
    -- What it will return is decided at once, by whether the session is in the register.
    unfold callUnregister
    split
    · next there =>
      refine .joined (c := ⟨tag, .unregister true, _⟩) free rfl rfl fun _ _ own => ?_
      cases own
      exact ⟨rfl, by rw [there]⟩
    · next absent =>
      refine .joined (c := ⟨tag, .unregister false, _⟩) free rfl rfl fun _ _ own => ?_
      cases own
      exact ⟨rfl, by rw [Bool.eq_false_iff.mpr absent]⟩
  | @closeAll tag free =>
    -- The calls that begin for the sessions leave those that are pending.
    obtain ⟨-, -, leads⟩ := beginTeardowns_spec (r := { r with registered := [] }) hosts.once
    unfold callCloseAll
    generalize ({ r with registered := [] } : Relay).beginTeardowns r.registered = begins at *
    obtain ⟨waits, r₁⟩ := begins
    dsimp only at leads
    subst leads
    exact .joined (c := ⟨tag, _, _⟩) free rfl rfl (by simp)
  | returnCalls => exact .back rfl rfl
  | _ => exact .same rfl rfl (by simp)

/-- What the calls that are over return, and that all others are still pending. -/
theorem returnCalls_spec (r : Relay) :
    (∀ c ∈ r.returnCalls.pending, c ∈ r.pending) ∧
    (∀ y ∈ r.returnCalls.returned, y ∈ r.returned ∨
      ∃ c ∈ r.pending, y = ⟨c.tag, r.result c.kind, r.env.now⟩) ∧
    (∀ y ∈ r.returned, y ∈ r.returnCalls.returned) ∧
    (∀ c ∈ r.pending, c ∈ r.returnCalls.pending ∨
      ⟨c.tag, r.result c.kind, r.env.now⟩ ∈ r.returnCalls.returned) := by
  -- When a turn is under way nothing returns, else the calls that are over change lists.
  unfold returnCalls
  dsimp only
  split
  · exact ⟨fun _ => id, fun _ => .inl, fun _ => id, fun _ => .inl⟩
  · simp only [List.foldl_push_eq_append, Array.mem_append, List.mem_toArray, List.mem_map,
      List.mem_filter]
    refine ⟨fun c among => among.1, fun y among => ?_, fun y among => .inl among,
      fun c among => ?_⟩
    · -- It has returned before, or is one of those that are over.
      refine among.imp id ?_
      rintro ⟨c, ⟨there, -⟩, same⟩
      exact ⟨c, there, same.symm⟩
    · cases ended : r.isOver c with
      | true => exact .inr (.inr ⟨c, ⟨among, ended⟩, rfl⟩)
      | false => exact .inl ⟨among, by simp⟩

namespace Answers

variable {tag : Nat} {wasRegistered : Bool}

/-- A call to take a session out of the register tells whether it was there. -/
theorem started {name : String} (books : r.Books (.move (.unregister tag name)) r') :
    r'.Answers tag (r.registered.contains name) := by
  cases books with
  | same _ _ other => exact absurd rfl (other tag name)
  | @joined c free pending returned kind =>
    obtain ⟨own, tells⟩ := kind tag name rfl
    -- Nobody has had the tag before.
    have nobody : ¬((∃ y ∈ r.returned, y.tag = tag) ∨ ∃ d ∈ r.pending, d.tag = tag) := by
      rw [← isFree_eq_false, ← own, free]
      simp
    refine ⟨isFree_eq_false.mpr (.inr ⟨c, by simp [pending], own⟩), fun d among same => ?_,
      fun y among same => ?_⟩
    · rw [pending] at among
      rcases List.mem_append.mp among with old | new
      · exact absurd (.inr ⟨d, old, same⟩) nobody
      · rw [List.mem_singleton.mp new]
        exact tells
    · rw [returned] at among
      exact absurd (.inl ⟨y, among, same⟩) nobody
  | back own _ => cases own

/-- What a call will return or has returned stays. -/
theorem step (answers : r.Answers tag wasRegistered) (books : r.Books x r') :
    r'.Answers tag wasRegistered := by
  -- A call of the tag is known throughout, so one that begins now is another call.
  cases books with
  | same pending returned _ =>
    refine ⟨isFree_eq_false.mpr ?_, ?_, ?_⟩
    · rw [pending, returned]
      exact isFree_eq_false.mp answers.known
    · rw [pending]
      exact answers.pending
    · rw [returned]
      exact answers.returned
  | @joined c free pending returned _ =>
    refine ⟨isFree_eq_false.mpr ?_, fun d among same => ?_, ?_⟩
    · rw [pending, returned]
      -- It has returned before, or it is pending before the new one.
      refine (isFree_eq_false.mp answers.known).imp id ?_
      rintro ⟨d, among, own⟩
      exact ⟨d, List.mem_append_left _ among, own⟩
    · rw [pending] at among
      rcases List.mem_append.mp among with old | new
      · exact answers.pending d old same
      · -- A call that begins has another tag.
        rw [List.mem_singleton.mp new] at same
        rw [same, answers.known] at free
        cases free
    · rw [returned]
      exact answers.returned
  | back _ same =>
    obtain ⟨pending, back, stays, goes⟩ := returnCalls_spec r
    rw [same]
    refine ⟨isFree_eq_false.mpr ?_, fun c among => answers.pending c (pending c among),
      fun y among own => ?_⟩
    -- What is pending stays so or returns now.
    · rcases isFree_eq_false.mp answers.known with ⟨y, among, own⟩ | ⟨c, among, own⟩
      · exact .inl ⟨y, stays y among, own⟩
      · rcases goes c among with still | returned
        · exact .inr ⟨c, still, own⟩
        · exact .inl ⟨_, returned, own⟩
    · -- What returns now returns what it was to return while it was pending.
      rcases back y among with old | ⟨c, there, rfl⟩
      · exact answers.returned y old own
      · show r.result c.kind = .removed wasRegistered
        rw [answers.pending c there own]
        rfl

/-- What a call returns it has found out when it was made, however the relay goes on. -/
theorem along {config : Config} {source : Source} {r₀ : Relay} {earlier : List Entry}
    (answers : r₀.Answers tag wasRegistered) (before : Trace act (new config source) earlier r₀)
    (run : Trace act r₀ past r) : r.Answers tag wasRegistered := by
  refine run.keeps (P := fun _ r => r.Answers tag wasRegistered) answers ?_
  -- The books are kept by every act on a relay whose hosts hold, as on any run from a new one.
  intro past r r' x run acted answers
  exact answers.step (act_books (hosts_of_trace (before.append run)) acted)

end Answers

end Relay

end WatchRelay
