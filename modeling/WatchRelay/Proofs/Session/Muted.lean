import WatchRelay.Proofs.Connection.Muted
import WatchRelay.Proofs.Session.Records

/-! A session where the watches of one kind are never opened: how its runners stand to those of a
session where they may be. -/

namespace WatchRelay

/-- Surroundings in which requests for watches of a kind are never answered. -/
def Surroundings.hushed (e : Surroundings) (kind : ResourceKind) : Surroundings :=
  { e with source := e.source.setOpening kind .hang }

namespace Surroundings

variable (e : Surroundings) (kind : ResourceKind)

@[simp] theorem hushed_now : (e.hushed kind).now = e.now := rfl

@[simp] theorem hushed_count (f : Metrics → Metrics) :
    (e.hushed kind).count f = (e.count f).hushed kind := rfl

@[simp] theorem hushed_close (w : Nat) : (e.hushed kind).close w = (e.close w).hushed kind := rfl

@[simp] theorem hushed_opening : (e.hushed kind).source.openings.get kind = .hang :=
  PerKind.get_set_self ..

/-- Watches are read there as elsewhere. -/
theorem hushed_read (w : Nat) : (e.hushed kind).source.read (e.hushed kind).now w =
    ((e.source.read e.now w).1, (e.source.read e.now w).2.setOpening kind .hang) := rfl

/-- Watches of other kinds are opened there as elsewhere. -/
theorem hushed_openWatch {request : WatchRequest} (other : request.kind ≠ kind)
    (credentials : Credentials) : (e.hushed kind).source.openWatch request credentials =
      ((e.source.openWatch request credentials).1,
        (e.source.openWatch request credentials).2.setOpening kind .hang) := by
  -- Only the answers for the hushed kind are set.
  have same : (e.hushed kind).source.openings.get request.kind =
      e.source.openings.get request.kind := PerKind.get_set_of_ne _ other _
  simp only [Source.openWatch, same]
  split <;> rfl

end Surroundings

/-- Keep-alive gets on as it does beside the writers that are not there. -/
theorem KeepAlive.Steps.mirrored {k k₁ : KeepAlive} {o o₁ o' : Outlet} {now : Nat}
    {cancelled : Bool} {failure : Option SessionFailure} {kind : ResourceKind}
    {f : Writer → Option Writer} (steps : k.Steps o now cancelled k₁ o₁ failure)
    (mutes : o.Mutes kind f o') (names : Renames f) (own : f .keepAlive = some .keepAlive) :
    ∃ o₁', k.step o' now cancelled = some (k₁, o₁', failure) ∧
      o₁.Mutes kind f o₁' := by
  -- A ping is no notification, so it is written on both sides alike.
  cases steps with
  | told waits told => exact ⟨o', by simp [step, waits, told], mutes⟩
  | ticked waits untold time =>
    exact ⟨_, by simp [step, waits, untold, time], mutes.join own⟩
  | wrote pings writes =>
    obtain ⟨o₁', writes', mutes'⟩ := mutes.stepWrite names own rfl writes
    exact ⟨o₁', by simp [step, pings, writes'], mutes'⟩
  | pinged pings writes =>
    obtain ⟨o₁', writes', mutes'⟩ := mutes.stepWrite names own rfl writes
    exact ⟨o₁', by simp [step, pings, writes'], mutes'⟩
  | failed pings writes =>
    obtain ⟨o₁', writes', mutes'⟩ := mutes.stepWrite names own rfl writes
    exact ⟨o₁', by simp [step, pings, writes'], mutes'⟩

namespace Runner

/-- Whether two runners do the same, where all are told to stop or not: they may differ in their
numbers and in what nobody looks at any more. -/
structure Alike (told : Bool) (r r' : Runner) : Prop where
  kind : r'.kind = r.kind
  project : r'.project = r.project
  phase : r'.phase = r.phase
  told : r.isRunning = true → (r'.cancelled || told) = (r.cancelled || told)

namespace Alike

variable {told stopped : Bool} {r r' r₁ : Runner} {o o₁ o' : Outlet} {e e₁ : Surroundings}
  {kind : ResourceKind} {f : Writer → Option Writer} {credentials : Credentials}
  {failure : Option SessionFailure}

theorem isRunning (alike : Alike told r r') : r'.isRunning = r.isRunning := by
  simp only [Runner.isRunning, alike.phase]

/-- Runners that do the same do so in another phase. -/
theorem setPhase (alike : Alike told r r') (runs : r.isRunning = true) (phase : RunnerPhase) :
    Alike told { r with phase } { r' with phase } :=
  ⟨alike.kind, alike.project, rfl, fun _ => alike.told runs⟩

theorem letGo (alike : Alike told r r') : r'.letGo (e.hushed kind) = (r.letGo e).hushed kind := by
  -- Both hold the same watch, since it is told by the phase.
  simp only [Runner.letGo, watch?, alike.phase]
  split <;> rfl

theorem finish (alike : Alike told r r') (o o' : Outlet) (e : Surroundings) (kind : ResourceKind)
    (reason : RunnerEnd) (failure : Option SessionFailure) :
    r'.finish o' (e.hushed kind) reason failure =
      ({ r' with phase := .finished reason }, o',
        (r.finish o e reason failure).2.2.1.hushed kind, failure) := by
  simp only [Runner.finish, alike.letGo, alike.kind]
  split <;> rfl

theorem crash (alike : Alike told r r') (o o' : Outlet) (e : Surroundings) (kind : ResourceKind) :
    r'.crash o' (e.hushed kind) =
      ({ r' with phase := .crashed }, o', (r.crash o e).2.2.1.hushed kind, none) := by
  simp only [Runner.crash, alike.letGo]
  rfl

/-- A runner of another kind has its watch opened as elsewhere. -/
theorem openWatch (alike : Alike told r r') (other : r.kind ≠ kind)
    (opens : r.openWatch o e credentials = (r₁, o₁, e₁, failure)) :
    r'.openWatch o' (e.hushed kind) credentials =
      ({ r' with phase := r₁.phase }, o', e₁.hushed kind, failure) := by
  have request : WatchRequest.live r'.kind r'.project = .live r.kind r.project := by
    rw [alike.kind, alike.project]
  have answers := e.hushed_openWatch kind
    (show (WatchRequest.live r.kind r.project).kind ≠ kind from other) credentials
  simp only [Runner.openWatch, request, answers] at opens ⊢
  -- The request is the same, and so is the answer.
  generalize e.source.openWatch (.live r.kind r.project) credentials = answer at opens ⊢
  obtain ⟨answer, source⟩ := answer
  let asked : Surroundings :=
    { e with requests := e.requests.push (.live r.kind r.project, credentials), source }
  cases answer <;> cases opens
  · rfl
  · exact alike.finish o o' asked kind .openFailed none
  · rfl
  · exact alike.crash o o' asked kind

/-- A runner does with a reading what it does elsewhere. -/
theorem consume (alike : Alike told r r') (mutes : o.Mutes kind f o')
    (own : f (.runner r.id) = some (.runner r'.id)) {w : Nat} {reading : Reading}
    (consumes : r.consume o e w reading = some (r₁, o₁, e₁, failure)) :
    ∃ o₁', r'.consume o' (e.hushed kind) w reading =
      some ({ r' with phase := r₁.phase }, o₁', e₁.hushed kind, failure) ∧
      o₁.Mutes kind f o₁' := by
  -- A reading that brings nothing to report leaves the phase as it was.
  have goesOn : r' = { r' with phase := r.phase } := by rw [← alike.phase]
  cases reading with
  | event event =>
    have reports : event.notification? r'.kind = event.notification? r.kind := by rw [alike.kind]
    simp only [Runner.consume, reports] at consumes ⊢
    split at consumes <;> cases consumes
    · exact ⟨o', congrArg (fun r' => some (r', _)) goesOn, mutes⟩
    · exact ⟨_, rfl, mutes.join own⟩
  | failure _ =>
    cases consumes
    exact ⟨o', congrArg some (alike.finish o o' e kind .streamFailed none), mutes⟩
  | ended =>
    cases consumes
    exact ⟨o', congrArg some (alike.finish o o' e kind .streamEnded none), mutes⟩
  | crash => cases consumes; exact ⟨o', congrArg some (alike.crash o o' e kind), mutes⟩
  | passed => cases consumes; exact ⟨o', congrArg (fun r' => some (r', _)) goesOn, mutes⟩
  | pending => cases consumes

/-- A runner of another kind gets on as it does elsewhere. -/
theorem step (alike : Alike told r r') (names : Renames f) (mutes : o.Mutes kind f o')
    (own : f (.runner r.id) = some (.runner r'.id)) (other : r.kind ≠ kind)
    (news : ∀ w m stage, r.phase = .forwarding w m stage →
      (OutFrame.message m).notifies kind = false)
    (steps : r.Steps o e credentials (r.cancelled || told) (r₁, o₁, e₁, failure)) :
    ∃ o₁', r'.step o' (e.hushed kind) credentials (r'.cancelled || told) =
      some ({ r' with phase := r₁.phase }, o₁', e₁.hushed kind, failure) ∧
        o₁.Mutes kind f o₁' := by
  -- From here on both look at the same flag, whatever it is.
  rw [alike.told steps.running]
  generalize (r.cancelled || told) = stopped at steps
  generalize whole : (r₁, o₁, e₁, failure) = change at steps
  cases steps with
  | toldFirst spawned told =>
    cases whole
    refine ⟨o', ?_, mutes⟩
    simp only [Runner.step, alike.phase, spawned, told, if_true, Surroundings.hushed_count]
    exact congrArg some (alike.finish o o' (e.count .runnerBegun) kind .cancelled none)
  | opened spawned untold =>
    obtain ⟨rfl, -⟩ := openWatch_rests whole.symm
    refine ⟨o', ?_, mutes⟩
    simp only [Runner.step, alike.phase, spawned, untold, Surroundings.hushed_count]
    exact congrArg some (alike.openWatch other whole.symm)
  | told waits told =>
    cases whole
    refine ⟨o', ?_, mutes⟩
    rcases waits with waits | ⟨w, waits⟩ <;>
      simp only [Runner.step, alike.phase, waits, told, if_true] <;>
      exact congrArg some (alike.finish o o' e kind .cancelled none)
  | @consumed w _ waits untold consumes =>
    subst whole
    obtain ⟨o₁', consumes', mutes'⟩ := alike.consume mutes own consumes
    -- Watches are read alike, so the reading is the same.
    refine ⟨o₁', ?_, mutes'⟩
    simp only [Runner.step, alike.phase, waits, untold, Surroundings.hushed_read]
    exact consumes'
  | wrote forwards writes =>
    cases whole
    obtain ⟨o₁', writes', mutes'⟩ := mutes.stepWrite names own (news _ _ _ forwards) writes
    refine ⟨o₁', ?_, mutes'⟩
    simp only [Runner.step, alike.phase, forwards, Surroundings.hushed_now, writes']
  | forwarded forwards writes =>
    cases whole
    -- What is counted is counted for the same kind.
    obtain ⟨o₁', writes', mutes'⟩ := mutes.stepWrite names own (news _ _ _ forwards) writes
    refine ⟨o₁', ?_, mutes'⟩
    simp only [Runner.step, alike.phase, forwards, Surroundings.hushed_now, writes']
    rw [alike.kind]
    rfl
  | failed forwards writes =>
    cases whole
    obtain ⟨o₁', writes', mutes'⟩ := mutes.stepWrite names own (news _ _ _ forwards) writes
    refine ⟨o₁', ?_, mutes'⟩
    simp only [Runner.step, alike.phase, forwards, Surroundings.hushed_now, writes']
    exact congrArg some (alike.finish o₁ o₁' e kind .sinkClosed failure)

end Alike

end Runner

/-- A runner of the kind that is hushed asks for its watch in vain. -/
theorem Runner.openWatch_hushed (r : Runner) (o : Outlet) (e : Surroundings)
    (credentials : Credentials) : r.openWatch o (e.hushed r.kind) credentials =
      ({ r with phase := .opening }, o,
        ({ e with requests := e.requests.push (.live r.kind r.project, credentials) } :
          Surroundings).hushed r.kind, none) := by
  -- The request is made and stays without an answer.
  have opening : (e.hushed r.kind).source.openings.get
      (WatchRequest.live r.kind r.project).kind = .hang := e.hushed_opening r.kind
  simp only [openWatch, Source.openWatch, opening]
  rfl

/-- The writer that a writer is under other numbers of the runners, if it is there. -/
def Writer.under (names : Nat → Option Nat) : Writer → Option Writer
  | .runner id => (names id).map .runner
  | .eventLoop => some .eventLoop
  | .keepAlive => some .keepAlive
  | .call id => some (.call id)

/-- How the runners of a session stand to those of another where no watch of a kind is opened: those
of other kinds are there under other numbers, and those of the kind have nothing to report. -/
structure Peers (kind : ResourceKind) (names : Nat → Option Nat) (told : Bool)
    (runners others : List Runner) : Prop where
  once : ∀ i j k, names i = some k → names j = some k → i = j
  pair : ∀ i k, names i = some k → ∃ r r', runners[i]? = some r ∧ others[k]? = some r' ∧
    r.kind ≠ kind ∧ r.Alike told r'
  named : ∀ (i : Nat) (r : Runner), runners[i]? = some r → r.kind ≠ kind →
    ∃ k, names i = some k
  silent : ∀ (k : Nat) (r' : Runner), others[k]? = some r' → r'.kind = kind → r'.watch? = none
  only : ∀ (k : Nat) (r' : Runner), others[k]? = some r' → r'.kind ≠ kind →
    ∃ i, names i = some k

namespace Peers

variable {kind : ResourceKind} {names : Nat → Option Nat} {told told₁ : Bool}
  {runners others runners₁ others₁ : List Runner}

/-- Each writer has at most one other name, and it does the same under it. -/
theorem renames (peers : Peers kind names told runners others) : Renames (Writer.under names) where
  once v w x named named' := by
    cases v <;> cases w <;>
      simp only [Writer.under, Option.map_eq_some_iff, Option.some.injEq] at named named'
    case runner.runner i j =>
      obtain ⟨k, named, rfl⟩ := named
      obtain ⟨l, named', same⟩ := named'
      cases same
      rw [peers.once i j k named named']
    -- Other writers keep their names, and no runner has one of these.
    all_goals grind
  unnumbered w x named := by
    cases w with
    | runner i =>
      obtain ⟨k, -, rfl⟩ := Option.map_eq_some_iff.mp named
      rfl
    | _ => cases named; rfl

/-- A runner of the kind is not there. -/
theorem nameless (peers : Peers kind names told runners others) {i : Nat} {r : Runner}
    (found : runners[i]? = some r) (same : r.kind = kind) : names i = none := by
  -- A named runner has another kind.
  cases named : names i with
  | none => rfl
  | some k =>
    obtain ⟨q, -, found', -, other, -⟩ := peers.pair i k named
    rw [found] at found'
    cases found'
    exact absurd same other

/-- A runner of another kind is there. -/
theorem there (peers : Peers kind names told runners others) {i : Nat} {r : Runner}
    (found : runners[i]? = some r) (other : r.kind ≠ kind) :
    ∃ k r', names i = some k ∧ others[k]? = some r' ∧ r.Alike told r' := by
  -- A runner of another kind has a name, and the pair under it is unique.
  obtain ⟨k, name⟩ := peers.named i r found other
  obtain ⟨q, r', found₀, found', -, alike⟩ := peers.pair i k name
  rw [found] at found₀
  cases found₀
  exact ⟨k, r', name, found', alike⟩

/-- A runner that is there and is not of the kind is here too. -/
theorem here (peers : Peers kind names told runners others) {k : Nat} {r' : Runner}
    (found' : others[k]? = some r') (other : r'.kind ≠ kind) :
    ∃ i r, names i = some k ∧ runners[i]? = some r ∧ r.Alike told r' := by
  -- The same from the side of the muted session.
  obtain ⟨i, name⟩ := peers.only k r' found' other
  obtain ⟨r, q, found, found₀, -, alike⟩ := peers.pair i k name
  rw [found'] at found₀
  cases found₀
  exact ⟨i, r, name, found, alike⟩

/-- What becomes of the runners leaves them as they stand to each other, if those that are there
under two numbers go on alike and the others open no watch. -/
theorem goOn (peers : Peers kind names told runners others)
    (before : ∀ (i : Nat) (r : Runner), runners₁[i]? = some r →
      ∃ q, runners[i]? = some q ∧ r.kind = q.kind)
    (before' : ∀ (k : Nat) (r : Runner), others₁[k]? = some r →
      ∃ q, others[k]? = some q ∧ r.kind = q.kind ∧
        (q.kind = kind → q.watch? = none → r.watch? = none))
    (pair : ∀ (i k : Nat) (r r' : Runner), names i = some k → runners[i]? = some r →
      others[k]? = some r' → r.kind ≠ kind → r.Alike told r' →
      ∃ r₁ r₁', runners₁[i]? = some r₁ ∧ others₁[k]? = some r₁' ∧
        r₁.Alike told₁ r₁') :
    Peers kind names told₁ runners₁ others₁ where
  once := peers.once
  pair i k name := by
    obtain ⟨r, r', found, found', other, alike⟩ := peers.pair i k name
    obtain ⟨r₁, r₁', there, there', alike'⟩ := pair i k r r' name found found' other alike
    -- The runner in that place is of the kind it was of.
    obtain ⟨q, found₀, same⟩ := before i r₁ there
    rw [found] at found₀
    cases found₀
    exact ⟨r₁, r₁', there, there', same ▸ other, alike'⟩
  named i r there other := by
    obtain ⟨q, found, same⟩ := before i r there
    exact peers.named i q found (same ▸ other)
  silent k r there own := by
    obtain ⟨q, found, same, without⟩ := before' k r there
    have own : q.kind = kind := same.symm.trans own
    exact without own (peers.silent k q found own)
  only k r there other := by
    obtain ⟨q, found, same, -⟩ := before' k r there
    exact peers.only k q found (same ▸ other)

/-- A runner that is there under two numbers goes on in another phase on both sides. -/
theorem setPhase (peers : Peers kind names told runners others) {i j : Nat} {r r' : Runner}
    (name : names i = some j) (found : runners[i]? = some r) (found' : others[j]? = some r')
    (runs : r.isRunning = true) (phase : RunnerPhase) :
    Peers kind names told (runners.set i { r with phase }) (others.set j { r' with phase }) := by
  obtain ⟨q, q', found₀, found₀', other, alike⟩ := peers.pair i j name
  rw [found] at found₀
  rw [found'] at found₀'
  cases found₀
  cases found₀'
  refine peers.goOn (fun k x there => ?_) (fun k x there => ?_)
    fun k l q q' name' there there' _ same => ?_
  · rcases Session.found_of_set there with ⟨rfl, rfl⟩ | ⟨-, there⟩
    · exact ⟨r, found, rfl⟩
    · exact ⟨x, there, rfl⟩
  · rcases Session.found_of_set there with ⟨rfl, rfl⟩ | ⟨-, there⟩
    · exact ⟨r', found', rfl, fun own => absurd (alike.kind.symm.trans own) other⟩
    · exact ⟨x, there, rfl, fun _ without => without⟩
  · -- The numbers of different runners differ on both sides.
    by_cases place : i = k
    · subst place
      obtain rfl : j = l := Option.some.inj (name.symm.trans name')
      refine ⟨_, _, ?_, ?_, alike.setPhase runs phase⟩
      · rw [List.getElem?_set_self (List.getElem?_eq_some_iff.mp found).1]
      · rw [List.getElem?_set_self (List.getElem?_eq_some_iff.mp found').1]
    -- Two numbers here cannot come to one number there.
    · have place' : j ≠ l := by
        rintro rfl
        exact place (peers.once i k j name name')
      exact ⟨q, q', by rw [List.getElem?_set_ne place, there],
        by rw [List.getElem?_set_ne place', there'], same⟩

/-- A runner of the kind goes on in another phase. -/
theorem setOwn (peers : Peers kind names told runners others) {i : Nat} {r : Runner}
    (found : runners[i]? = some r) (own : r.kind = kind) (phase : RunnerPhase) :
    Peers kind names told (runners.set i { r with phase }) others := by
  refine peers.goOn (fun k x there => ?_)
    (fun k x there => ⟨x, there, rfl, fun _ without => without⟩)
    fun k l q q' _ there there' other same => ?_
  · rcases Session.found_of_set there with ⟨rfl, rfl⟩ | ⟨-, there⟩
    · exact ⟨r, found, rfl⟩
    · exact ⟨x, there, rfl⟩
  -- A runner that is there is of another kind, so it is not the one that goes on.
  · have place : i ≠ k := by
      rintro rfl
      rw [found] at there
      cases there
      exact other own
    exact ⟨q, q', by rw [List.getElem?_set_ne place, there], there', same⟩

/-- A runner of the kind goes on in another phase where it has no watch. -/
theorem setOwn' (peers : Peers kind names told runners others) {j : Nat} {r : Runner}
    (found : others[j]? = some r) (own : r.kind = kind) {phase : RunnerPhase}
    (without : { r with phase }.watch? = none) :
    Peers kind names told runners (others.set j { r with phase }) := by
  refine peers.goOn (fun k x there => ⟨x, there, rfl⟩) (fun k x there => ?_)
    fun k l q q' _ there there' other same => ?_
  · rcases Session.found_of_set there with ⟨rfl, rfl⟩ | ⟨-, there⟩
    · exact ⟨r, found, rfl, fun _ _ => without⟩
    · exact ⟨x, there, rfl, fun _ without => without⟩
  -- Nor is the runner that it is there.
  · have place : j ≠ l := by
      rintro rfl
      rw [found] at there'
      cases there'
      exact other (same.kind.symm.trans own)
    exact ⟨q, q', there, by rw [List.getElem?_set_ne place, there'], same⟩

/-- Runners that do the same stand to each other as they did, once all are told to stop. -/
theorem tellAll (peers : Peers kind names told runners others)
    (same : runners₁.map Runner.core = runners.map Runner.core)
    (same' : others₁.map Runner.core = others.map Runner.core) :
    Peers kind names true runners₁ others₁ := by
  have core {r q : Runner} (work : r.core = q.core) :
      r.kind = q.kind ∧ r.project = q.project ∧ r.phase = q.phase := by
    obtain ⟨-, kind, project, -, phase, -⟩ := Runner.mk.inj work
    exact ⟨kind, project, phase⟩
  refine peers.goOn (fun i r there => ?_) (fun k r there => ?_) ?_
  · obtain ⟨q, found, work⟩ := Session.found_of_map same there
    exact ⟨q, found, (core work).1⟩
  · obtain ⟨q, found, work⟩ := Session.found_of_map same' there
    refine ⟨q, found, (core work).1, fun _ without => ?_⟩
    rw [Runner.watch?, (core work).2.2]
    exact without
  · intro i k r r' _ found found' _ alike
    -- In the same places stand runners that do the same.
    obtain ⟨r₁, there, work⟩ := Session.found_of_map same.symm found
    obtain ⟨r₁', there', work'⟩ := Session.found_of_map same'.symm found'
    -- What a runner does is its kind, its project and its phase.
    obtain ⟨kinds, projects, phases⟩ := core work
    obtain ⟨kinds', projects', phases'⟩ := core work'
    exact ⟨r₁, r₁', there, there', kinds'.symm.trans (alike.kind.trans kinds),
      projects'.symm.trans (alike.project.trans projects),
      phases'.symm.trans (alike.phase.trans phases), fun _ => by simp⟩

/-- A runner of the kind is started. -/
theorem startOwn (peers : Peers kind names told runners others) {r : Runner}
    (own : r.kind = kind) : Peers kind names told (runners ++ [r]) others where
  once := peers.once
  pair i k name := by
    -- The new runner stands behind the others, so every pair is found where it was.
    obtain ⟨q, q', found, found', rest⟩ := peers.pair i k name
    obtain ⟨inside, -⟩ := List.getElem?_eq_some_iff.mp found
    exact ⟨q, q', (List.getElem?_append_left inside).trans found, found', rest⟩
  named i q there other := by
    rcases Session.found_of_concat there with found | ⟨-, -, rfl⟩
    · exact peers.named i q found other
    · exact absurd own other
  silent := peers.silent
  only := peers.only

/-- A runner of the kind is started where it has its watch never opened. -/
theorem startOwn' (peers : Peers kind names told runners others) {r : Runner}
    (own : r.kind = kind) (without : r.watch? = none) :
    Peers kind names told runners (others ++ [r]) where
  once := peers.once
  pair i k name := by
    -- The new runner opens no watch, so the extra one stays silent.
    obtain ⟨q, q', found, found', rest⟩ := peers.pair i k name
    obtain ⟨inside, -⟩ := List.getElem?_eq_some_iff.mp found'
    exact ⟨q, q', found, (List.getElem?_append_left inside).trans found', rest⟩
  named := peers.named
  silent k q there same := by
    rcases Session.found_of_concat there with found | ⟨-, -, rfl⟩
    · exact peers.silent k q found same
    · exact without
  only k q there other := by
    rcases Session.found_of_concat there with found | ⟨-, -, rfl⟩
    · exact peers.only k q found other
    · exact absurd own other

/-- A runner of another kind is started on both sides, and each has its number. -/
theorem start (peers : Peers kind names told runners others) {r r' : Runner}
    (other : r.kind ≠ kind) (alike : r.Alike told r') :
    Peers kind (fun i => if i = runners.length then some others.length else names i) told
      (runners ++ [r]) (others ++ [r']) := by
  -- Numbers that are in use are of runners that are there already.
  have inside {i k : Nat} (name : names i = some k) : i < runners.length ∧ k < others.length := by
    obtain ⟨q, q', found, found', -⟩ := peers.pair i k name
    exact ⟨(List.getElem?_eq_some_iff.mp found).1, (List.getElem?_eq_some_iff.mp found').1⟩
  refine ⟨fun i j k name name' => ?_, fun i k name => ?_, fun i q there differ => ?_,
    fun k q there same => ?_, fun k q there differ => ?_⟩
  · -- The new numbers are none of those that were given before.
    grind [peers.once i j k]
  · split at name
    · next last =>
      cases name
      exact ⟨r, r', by simp [last], by simp, other, alike⟩
    · obtain ⟨q, q', found, found', rest⟩ := peers.pair i k name
      exact ⟨q, q', (List.getElem?_append_left (inside name).1).trans found,
        (List.getElem?_append_left (inside name).2).trans found', rest⟩
  · rcases Session.found_of_concat there with found | ⟨-, last, rfl⟩
    · obtain ⟨k, name⟩ := peers.named i q found differ
      exact ⟨k, (if_neg (Nat.ne_of_lt (inside name).1)).trans name⟩
    · exact ⟨_, if_pos last⟩
  · rcases Session.found_of_concat there with found | ⟨-, -, rfl⟩
    · exact peers.silent k q found same
    · exact absurd (alike.kind.symm.trans same) other
  · rcases Session.found_of_concat there with found | ⟨-, rfl, rfl⟩
    · obtain ⟨i, name⟩ := peers.only k q found differ
      exact ⟨i, (if_neg (Nat.ne_of_lt (inside name).1)).trans name⟩
    · exact ⟨runners.length, if_pos rfl⟩

end Peers

end WatchRelay
