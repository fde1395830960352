import WatchRelay.Proofs.Catalog.Watching
import WatchRelay.Proofs.Session.Writers

/-! What a session does with the catalog: each of its runners holds a watch to itself. -/

namespace WatchRelay

namespace HubAction

/-- Whether an action neither reads nor closes a watch. -/
def Spares (watch : Nat) (action : HubAction) : Prop :=
  action ≠ .read watch ∧ action ≠ .close watch

end HubAction

/-- Actions that spare a watch leave it as it is and yield nothing from it. -/
theorem Hub.after_spares {h : Hub} {watch : Nat} (known : watch < h.nextWatch)
    {actions : List HubAction} (spares : ∀ a ∈ actions, a.Spares watch) :
    (h.after actions).watch? watch = h.watch? watch ∧ h.items watch actions = [] := by
  -- The induction is on the actions, and the watch stays known on the way.
  induction actions generalizing h with
  | nil => exact ⟨rfl, rfl⟩
  | cons action rest ih =>
    obtain ⟨unread, unclosed⟩ := spares action List.mem_cons_self
    have acts := h.act_acts .registry action
    obtain ⟨same, silent⟩ := ih (Nat.lt_of_lt_of_le known acts.frame.2)
      fun a member => spares a (List.mem_cons_of_mem _ member)
    refine ⟨same.trans (acts.watch? known unread unclosed), ?_⟩
    rw [Hub.items, Hub.item?_of_ne unread, silent]
    rfl

/-- What an item of a watch is to who reads it from the backend. -/
def WatchItem.reading : WatchItem → Reading
  | .event e => .event e
  | .failure f => .failure f
  | .ended => .ended
  | .passed => .passed
  | .pending => .pending

namespace Surroundings

/-- The catalog that is watched, if it is one. -/
def catalog? (e : Surroundings) : Option Hub :=
  match e.source.backend with
  | .catalog hub => some hub
  | .played _ => none

variable {e : Surroundings} {hub : Hub}

theorem catalog?_eq_some : e.catalog? = some hub ↔ e.source.backend = .catalog hub := by
  unfold catalog?
  cases e.source.backend <;> simp

/-- The catalog is a matter of the source alone. -/
theorem catalog?_congr {e' : Surroundings} (source : e'.source = e.source) :
    e'.catalog? = e.catalog? := by
  rw [catalog?, source, catalog?]

/-- Closing a watch closes it in the catalog. -/
theorem catalog?_close (catalog : e.catalog? = some hub) (watch : Nat) :
    (e.close watch).catalog? = some (hub.close watch) := by
  rw [catalog?_eq_some] at catalog ⊢
  simp [close, Source.close, Backend.close, catalog]

/-- Reading from a watch reads from it in the catalog. -/
theorem catalog?_read (catalog : e.catalog? = some hub) (now watch : Nat) :
    catalog? { e with source := (e.source.read now watch).2 } = some (hub.read watch).2 := by
  rw [catalog?_eq_some] at catalog ⊢
  simp [Source.read, Backend.read, catalog]

/-- What is read from a watch is what the catalog yields. -/
theorem reading_eq (catalog : e.catalog? = some hub) (now watch : Nat) :
    (e.source.read now watch).1 = (hub.read watch).1.reading := by
  -- The source hands on what the hub gives, in words of its own.
  rw [catalog?_eq_some] at catalog
  simp only [Source.read, Backend.read, catalog]
  cases (hub.read watch).1 <;> rfl

end Surroundings

namespace Runner

/-- What a runner that stops does with the catalog. -/
def closings (r : Runner) : List HubAction := r.watch?.toList.map .close

/-- What a step of a runner does with the catalog, and what becomes of its watch. -/
inductive Uses (r r' : Runner) (hub : Hub) : List HubAction → Prop where
  | nothing (same : r'.watch? = r.watch?) : Uses r r' hub []
  | opened {credentials : Credentials} {h' : Hub}
      (opens : hub.openWatch (.live r.kind r.project) credentials = .ok (hub.nextWatch, h'))
      (first : r.watch? = none) (holds : r'.watch? = some hub.nextWatch) :
      Uses r r' hub [.openWatch (.live r.kind r.project) credentials]
  | read {w : Nat} (held : r.watch? = some w) (holds : r'.watch? = some w) :
      Uses r r' hub [.read w]
  | left (gone : r'.watch? = none) : Uses r r' hub r.closings
  | ended {w : Nat} (held : r.watch? = some w) (gone : r'.watch? = none) :
      Uses r r' hub (.read w :: r.closings)

variable {r r' : Runner} {o o' : Outlet} {e e' : Surroundings} {hub : Hub}

/-- Letting go closes the watch a runner holds. -/
theorem catalog?_letGo (r : Runner) (catalog : e.catalog? = some hub) :
    (r.letGo e).catalog? = some (hub.after r.closings) := by
  unfold letGo closings
  -- A runner without a watch has nothing to close.
  cases r.watch? with
  | none => exact catalog
  | some w => exact Surroundings.catalog?_close catalog w

/-- A runner that stops lets its watch go. -/
theorem catalog?_finish (r : Runner) (o : Outlet) (catalog : e.catalog? = some hub)
    (reason : RunnerEnd) (f : Option SessionFailure) :
    (r.finish o e reason f).2.2.1.catalog? = some (hub.after r.closings) := by
  unfold finish
  dsimp only
  -- The counts that are changed besides are no matter of the catalog.
  split <;> exact r.catalog?_letGo catalog

/-- A runner that is stopped from outside lets its watch go. -/
theorem uses_abort (r : Runner) (o : Outlet) (catalog : e.catalog? = some hub) :
    (r.abort o e).2.2.catalog? = some (hub.after r.closings) ∧
      (r.abort o e).1.watch? = none := by
  unfold abort
  split
  · -- A runner that runs is stopped, and its watch closed.
    dsimp only
    refine ⟨?_, rfl⟩
    split <;> exact r.catalog?_letGo catalog
  · next ended =>
    -- A runner that has stopped before holds no watch.
    have none : r.watch? = none := by
      unfold isRunning at ended
      unfold watch?
      split at ended <;> simp_all
    refine ⟨?_, none⟩
    rw [closings, none]
    exact catalog

/-- A runner that asks for its watch opens it, or stays without one. -/
theorem uses_openWatch {credentials : Credentials} {f : Option SessionFailure}
    (catalog : e.catalog? = some hub) (without : r.watch? = none)
    (opens : r.openWatch o e credentials = (r', o', e', f)) :
    ∃ actions, e'.catalog? = some (hub.after actions) ∧ r.Uses r' hub actions := by
  have backend := Surroundings.catalog?_eq_some.mp catalog
  -- That the request is noted is no matter of the catalog.
  have asked : Surroundings.catalog? { e with
      requests := e.requests.push (.live r.kind r.project, credentials) } = some hub := catalog
  unfold openWatch at opens
  simp only [Source.openWatch, backend, Backend.openWatch] at opens
  -- The backend is asked for the watch, unless it does not take requests of the kind.
  cases opening : e.source.openings.get (WatchRequest.live r.kind r.project).kind with
  | normal =>
    cases answer : hub.openWatch (.live r.kind r.project) credentials with
    | ok result =>
      obtain ⟨w, h'⟩ := result
      obtain ⟨rfl, -⟩ := Hub.openWatch_ok answer
      simp only [opening, answer] at opens
      cases opens
      exact ⟨_, by simp [Surroundings.catalog?, Hub.after, Hub.act, answer],
        .opened answer without rfl⟩
    | error failure =>
      simp only [opening, answer] at opens
      cases opens
      refine ⟨r.closings, ?_, .left rfl⟩
      exact r.catalog?_finish o (Surroundings.catalog?_eq_some.mpr rfl) .openFailed none
  | refuse failure =>
    simp only [opening] at opens
    cases opens
    refine ⟨r.closings, ?_, .left rfl⟩
    exact r.catalog?_finish o asked .openFailed none
  | hang =>
    -- The backend does not answer, and the runner waits.
    simp only [opening] at opens
    cases opens
    exact ⟨[], asked, .nothing without.symm⟩
  | crash =>
    -- The backend breaks the runner off, which has no watch to close.
    simp only [opening] at opens
    cases opens
    exact ⟨r.closings, r.catalog?_letGo asked, .left rfl⟩

/-- A step of a runner uses no watch but its own. -/
theorem Steps.uses {credentials : Credentials} {stopped : Bool} {f : Option SessionFailure}
    (moved : r.Steps o e credentials stopped (r', o', e', f)) (catalog : e.catalog? = some hub) :
    ∃ actions, e'.catalog? = some (hub.after actions) ∧ r.Uses r' hub actions := by
  generalize whole : (r', o', e', f) = change at moved
  cases moved with
  | toldFirst _ _ =>
    -- It stops before it has opened a watch.
    cases whole
    have begun : (e.count .runnerBegun).catalog? = some hub := catalog
    exact ⟨r.closings, r.catalog?_finish o begun .cancelled none, .left rfl⟩
  | opened spawned _ =>
    have without : r.watch? = none := by simp [watch?, spawned]
    exact uses_openWatch (e := e.count .runnerBegun) catalog without whole.symm
  | told _ _ =>
    cases whole
    exact ⟨r.closings, r.catalog?_finish o catalog .cancelled none, .left rfl⟩
  | @consumed w _ waits _ consumes =>
    subst whole
    have held : r.watch? = some w := by simp [watch?, waits]
    have read := Surroundings.catalog?_read catalog e.now w
    unfold consume at consumes
    -- A runner that goes on has read its watch, and one that stops closes it besides.
    split at consumes
    · split at consumes
      · cases consumes
        exact ⟨[.read w], read, .read held held⟩
      · cases consumes
        exact ⟨[.read w], read, .read held rfl⟩
    · cases consumes
      exact ⟨.read w :: r.closings, r.catalog?_finish o read .streamFailed none,
        .ended held rfl⟩
    · cases consumes
      exact ⟨.read w :: r.closings, r.catalog?_finish o read .streamEnded none, .ended held rfl⟩
    · cases consumes
      exact ⟨.read w :: r.closings, r.catalog?_letGo read, .ended held rfl⟩
    · cases consumes
      exact ⟨[.read w], read, .read held held⟩
    · cases consumes
  | wrote forwards _ =>
    -- Writing a report is nothing to the catalog.
    cases whole
    exact ⟨[], catalog, .nothing (by simp [watch?, forwards])⟩
  | forwarded forwards _ =>
    cases whole
    exact ⟨[], catalog, .nothing (by simp [watch?, forwards])⟩
  | failed _ _ =>
    cases whole
    exact ⟨r.closings, r.catalog?_finish o' catalog .sinkClosed f, .left rfl⟩

/-- A runner that lets its watch go changes no resource. -/
theorem changes_closings (r : Runner) (hub : Hub) (kind : ResourceKind) :
    hub.changes kind r.closings = [] := by
  unfold closings
  cases r.watch? <;> rfl

/-- A runner that lets its watch go spares the watches of all others. -/
theorem spares_closings (r : Runner) {w : Nat} (other : r.watch? ≠ some w) :
    ∀ a ∈ r.closings, a.Spares w := by
  -- A runner closes only the watch it holds.
  intro a member
  obtain ⟨own, held, rfl⟩ := List.mem_map.mp member
  refine ⟨by simp, fun same => other ?_⟩
  cases same
  exact Option.mem_toList.mp held

/-- What a step of a runner does with the catalog changes no resource. -/
theorem Uses.changes {actions : List HubAction} (uses : r.Uses r' hub actions)
    (kind : ResourceKind) : hub.changes kind actions = [] := by
  -- No use of the catalog by a runner publishes anything.
  cases uses with
  | nothing _ => rfl
  | opened _ _ _ => rfl
  | read _ _ => rfl
  | left _ => exact r.changes_closings hub kind
  | ended _ _ => exact r.changes_closings (hub.act _) kind

/-- A step of a runner spares the watches of all others. -/
theorem Uses.spares {actions : List HubAction} (uses : r.Uses r' hub actions) {w : Nat}
    (other : r.watch? ≠ some w) : ∀ a ∈ actions, a.Spares w := by
  -- What a runner reads is its own watch, which is not this one.
  have reading {own : Nat} (held : r.watch? = some own) : (HubAction.read own).Spares w := by
    refine ⟨fun same => other ?_, by simp⟩
    cases same
    exact held
  intro a member
  cases uses with
  | nothing _ => cases member
  | opened _ _ _ =>
    obtain rfl := List.mem_singleton.mp member
    exact ⟨by simp, by simp⟩
  | read held _ =>
    obtain rfl := List.mem_singleton.mp member
    exact reading held
  | left _ => exact r.spares_closings other a member
  | ended held _ =>
    rcases List.mem_cons.mp member with rfl | later
    · exact reading held
    · exact r.spares_closings other a later

/-- A runner has after a step the watch it had, or none, or a new one. -/
theorem Uses.watch {actions : List HubAction} (uses : r.Uses r' hub actions) {w : Nat}
    (holds : r'.watch? = some w) : r.watch? = some w ∨
      r.watch? = none ∧ w = hub.nextWatch ∧ w < (hub.after actions).nextWatch := by
  -- A runner comes to a watch only by opening it, and then it is the next one.
  cases uses with
  | nothing same => exact .inl (same.symm.trans holds)
  | opened opens first held =>
    obtain rfl := Option.some.inj (held.symm.trans holds)
    obtain ⟨-, opened⟩ := Hub.openWatch_ok opens
    refine .inr ⟨first, rfl, ?_⟩
    simp [Hub.after, Hub.act, opens, opened]
  | read held held' => exact .inl (held.trans (held'.symm.trans holds))
  | left gone =>
    rw [gone] at holds
    cases holds
  | ended _ gone =>
    rw [gone] at holds
    cases holds

end Runner

namespace Session

variable {s s' : Session} {e e' : Surroundings} {hub : Hub}

/-- The watch that the runner with a number holds. -/
def watchOf (s : Session) (id : Nat) : Option Nat := s.runners[id]?.bind Runner.watch?

theorem watchOf_eq {id : Nat} {r : Runner} (found : s.runners[id]? = some r) :
    s.watchOf id = r.watch? := by
  rw [watchOf, found, Option.bind_some]

/-- The change to the resources of a kind that is made in a move, as it is answered. -/
def Occasion.change? (kind : ResourceKind) (o : Occasion) : Option Event :=
  match o.move, o.env.catalog? with
  | .catalog action, some hub => hub.change? kind action
  | _, _ => none

/-- What is known of the watches that the runners of a session hold: the catalog knows them, and
each is held by one runner. -/
structure Holding (s : Session) (hub : Hub) : Prop where
  fresh : hub.Fresh
  known : ∀ id w, s.watchOf id = some w → w < hub.nextWatch
  alone : ∀ id other w, s.watchOf id = some w → s.watchOf other = some w → id = other

/-- Which actions on the catalog a move comes to, and what they mean to the runners: each has the
watch it had, which only its own steps read or close, or a new one. -/
structure Draws (s s' : Session) (e : Surroundings) (m : Move) (hub : Hub)
    (actions : List HubAction) : Prop where
  changes : ∀ kind, hub.changes kind actions = (Occasion.change? kind ⟨s, e, m⟩).toList
  watch : ∀ id w, s'.watchOf id = some w →
    s.watchOf id = some w ∧ (m ≠ .task (.runner id) → ∀ a ∈ actions, a.Spares w) ∨
      m = .task (.runner id) ∧ s.watchOf id = none ∧ w = hub.nextWatch ∧
        w < (hub.after actions).nextWatch

/-- The watches that are held depend on the work of the runners alone. -/
theorem watchOf_congr (same : s'.runners.map Runner.core = s.runners.map Runner.core) (id : Nat) :
    s'.watchOf id = s.watchOf id := by
  -- The watch is part of what the runner has to do.
  have core (l : List Runner) : (l.map Runner.core)[id]?.bind Runner.watch? =
      l[id]?.bind Runner.watch? := by
    rw [List.getElem?_map, Option.bind_map]
    rfl
  rw [watchOf, watchOf, ← core, same, core]

/-- The watches that are held once the runner with a number is replaced. -/
theorem watchOf_set {id : Nat} {r : Runner} (found : s.runners[id]? = some r) (r' : Runner)
    (o : Outlet) (alarms : Alarms) (other : Nat) :
    { s with outlet := o, runners := s.runners.set id r', alarms }.watchOf other =
      if other = id then r'.watch? else s.watchOf other := by
  -- The runner is replaced in its place, and in no other.
  by_cases same : other = id
  · subst same
    obtain ⟨inside, -⟩ := List.getElem?_eq_some_iff.mp found
    simp [watchOf, inside]
  · simp [watchOf, same, List.getElem?_set_ne (Ne.symm same)]

/-- A move that leaves the catalog and the watches alone draws on nothing. -/
theorem Draws.nothing {m : Move} (silent : ∀ action, m ≠ .catalog action)
    (same : ∀ id w, s'.watchOf id = some w → s.watchOf id = some w) :
    Draws s s' e m hub [] := by
  -- Without an action on the catalog nothing is drawn from it.
  refine ⟨fun kind => ?_, fun id w holds => .inl ⟨same id w holds, fun _ a member => ?_⟩⟩
  · cases m with
    | catalog action => exact absurd rfl (silent action)
    | _ => rfl
  · cases member

/-- Stopping the runners from outside closes the watches they hold, and nothing else. -/
theorem abortRunners_draws (numbered : s.Numbered) (holding : s.Holding hub)
    (catalog : e.catalog? = some hub) :
    ∃ actions, (s.abortRunners e).2.catalog? = some (hub.after actions) ∧
      (∀ kind, hub.changes kind actions = []) ∧
      ∀ id w, (s.abortRunners e).1.watchOf id = some w →
        s.watchOf id = some w ∧ ∀ a ∈ actions, a.Spares w := by
  -- Along the way, what was done so far spares the watches that are still held.
  refine abortRunners_keeps
    (P := fun t x => ∃ actions, x.catalog? = some (hub.after actions) ∧
      (∀ kind, hub.changes kind actions = []) ∧
      ∀ id w, t.watchOf id = some w → s.watchOf id = some w ∧ ∀ a ∈ actions, a.Spares w)
    numbered ?_ ?_
  · exact ⟨[], catalog, fun _ => rfl, fun _ _ holds =>
      ⟨holds, fun _ member => by cases member⟩⟩
  · rintro t x r found ⟨actions, catalog, silent, held⟩
    obtain ⟨closes, gone⟩ := r.uses_abort t.outlet catalog
    refine ⟨actions ++ r.closings, ?_, fun kind => ?_, fun id w holds => ?_⟩
    · rw [Hub.after_append]
      exact closes
    · rw [Hub.changes_append, silent, r.changes_closings, List.append_nil]
    · have after := watchOf_set found (r.abort t.outlet x).1 (r.abort t.outlet x).2.1 t.alarms id
      have holds : _ = some w := after.symm.trans holds
      split at holds
      · rw [gone] at holds
        cases holds
      · next differ =>
        obtain ⟨before, spares⟩ := held id w holds
        refine ⟨before, fun a member => ?_⟩
        rcases List.mem_append.mp member with earlier | closing
        · exact spares a earlier
        · -- The runner that is stopped holds another watch.
          refine r.spares_closings (fun own => differ ?_) a closing
          have own : t.watchOf r.id = some w := (watchOf_eq found).trans own
          exact holding.alone id r.id w before (held r.id w own).1

/-- A step of the event loop closes watches only when it stops the runners from outside. -/
theorem LoopSteps.draws (numbered : s.Numbered) (holding : s.Holding hub)
    (catalog : e.catalog? = some hub) (moved : s.LoopSteps e s' e') :
    ∃ actions, e'.catalog? = some (hub.after actions) ∧
      Draws s s' e (.task .eventLoop) hub actions := by
  cases moved.oversees with
  | kept same source =>
    -- Telling runners to stop leaves them the watches they hold.
    refine ⟨[], (Surroundings.catalog?_congr source).trans catalog, ?_⟩
    exact .nothing (by simp) fun id w holds => (watchOf_congr same id).symm.trans holds
  | started kind project runners source =>
    refine ⟨[], (Surroundings.catalog?_congr source).trans catalog, ?_⟩
    -- The new runner holds no watch yet.
    refine .nothing (by simp) fun id w holds => ?_
    rw [watchOf, runners, List.getElem?_append] at holds
    split at holds
    · exact holds
    · cases place : id - s.runners.length <;> simp [place, Runner.new, Runner.watch?] at holds
  | aborted runners env =>
    subst env
    -- Each runner that runs closes its own watch.
    obtain ⟨actions, closes, silent, held⟩ := abortRunners_draws numbered holding catalog
    refine ⟨actions, closes, fun kind => silent kind, fun id w holds => .inl ?_⟩
    rw [watchOf, runners] at holds
    obtain ⟨before, spares⟩ := held id w holds
    exact ⟨before, fun _ => spares⟩

theorem holdsWatch_of {id w : Nat} (holds : s.watchOf id = some w) : s.holdsWatch w = true := by
  -- The runner that holds the watch is among those of the session.
  obtain ⟨r, found, own⟩ := Option.bind_eq_some_iff.mp holds
  obtain ⟨inside, same⟩ := List.getElem?_eq_some_iff.mp found
  exact List.any_eq_true.mpr ⟨r, same ▸ List.getElem_mem inside, by simp [own]⟩

/-- What every move comes to in the catalog, if nothing else is put in the place of it. -/
theorem Moves.draws {m : Move} (numbered : s.Numbered) (holding : s.Holding hub)
    (catalog : e.catalog? = some hub) (moved : s.Moves e m s' e')
    (steady : ∀ env, m = .outside env → env.source.backend = e.source.backend) :
    ∃ actions, e'.catalog? = some (hub.after actions) ∧ Draws s s' e m hub actions := by
  cases moved with
  | received _ => exact ⟨[], catalog, .nothing (by simp) fun _ _ => id⟩
  | looped steps => exact steps.draws numbered holding catalog
  | keptAlive _ => exact ⟨[], catalog, .nothing (by simp) fun _ _ => id⟩
  | @ran id r r' o _ f found steps =>
    obtain ⟨actions, catalog', uses⟩ := steps.uses catalog
    have own := watchOf_eq found
    refine ⟨actions, catalog', fun kind => uses.changes kind, fun other w holds => ?_⟩
    rw [watchOf_set found r' o (s.alarms.reportAny f) other] at holds
    split at holds
    · next same =>
      subst same
      rw [own]
      rcases uses.watch holds with before | ⟨none, fresh, later⟩
      · exact .inl ⟨before, fun differ => absurd rfl differ⟩
      · exact .inr ⟨rfl, none, fresh, later⟩
    · next differ =>
      -- The runner that steps holds another watch than this one.
      refine .inl ⟨holds, fun _ => uses.spares fun same => differ ?_⟩
      exact holding.alone other id w holds (own.trans same)
  | closed steps =>
    -- The calls leave the runners and the catalog alone.
    refine ⟨[], ?_, .nothing (by simp) fun id w holds => ?_⟩
    · cases steps <;> exact catalog
    · cases steps <;> exact holds
  | arrived _ => exact ⟨[], catalog, .nothing (by simp) fun _ _ => id⟩
  | hungUp => exact ⟨[], catalog, .nothing (by simp) fun _ _ => id⟩
  | rewired _ => exact ⟨[], catalog, .nothing (by simp) fun _ _ => id⟩
  | told => exact ⟨[], catalog, .nothing (by simp) fun _ _ => id⟩
  | called _ => exact ⟨[], catalog, .nothing (by simp) fun _ _ => id⟩
  | @shared hub' action backend alone =>
    have there : e.catalog? = some hub' := Surroundings.catalog?_eq_some.mpr backend
    obtain rfl := Option.some.inj (catalog.symm.trans there)
    refine ⟨[action], Surroundings.catalog?_eq_some.mpr rfl, fun kind => ?_,
      fun id w holds => ?_⟩
    · simp [Hub.changes, Occasion.change?, catalog]
    · -- Others do nothing with a watch that is held.
      refine .inl ⟨holds, fun _ a member => ?_⟩
      obtain rfl := List.mem_singleton.mp member
      have own : s.holdsWatch w = true := holdsWatch_of holds
      constructor
      · rintro rfl
        simp [leavesAlone, own] at alone
      · rintro rfl
        simp [leavesAlone, own] at alone
  | passed =>
    -- Whatever changes outside, the catalog is not put out of its place.
    refine ⟨[], ?_, .nothing (by simp) fun _ _ => id⟩
    exact Surroundings.catalog?_eq_some.mpr
      ((steady _ rfl).trans (Surroundings.catalog?_eq_some.mp catalog))

/-- Every move leaves each watch to one runner. -/
theorem Draws.holding {m : Move} {actions : List HubAction} (draws : Draws s s' e m hub actions)
    (holding : s.Holding hub) : s'.Holding (hub.after actions) := by
  obtain ⟨-, later, fresh⟩ := hub.after_frame actions
  refine ⟨fresh holding.fresh, fun id w holds => ?_, fun id other w holds holds' => ?_⟩
  · -- A watch that is held was held before, or has been opened in this move.
    rcases draws.watch id w holds with ⟨before, -⟩ | ⟨-, -, -, known⟩
    · exact Nat.lt_of_lt_of_le (holding.known id w before) later
    · exact known
  · -- A watch that is new is none of those that were held before.
    rcases draws.watch id w holds with ⟨before, -⟩ | ⟨own, -, new, -⟩ <;>
      rcases draws.watch other w holds' with ⟨before', -⟩ | ⟨own', -, new', -⟩
    · exact holding.alone id other w before before'
    · exact absurd (holding.known id w before) (by omega)
    · exact absurd (holding.known other w before') (by omega)
    · cases own.symm.trans own'
      rfl

/-- A session that has just started holds no watch. -/
theorem Begins.holding (begins : Begins s) (fresh : hub.Fresh) : s.Holding hub := by
  -- At the start there are no runners to hold a watch.
  have none (id : Nat) : s.watchOf id = none := by simp [watchOf, begins.runners]
  refine ⟨fresh, fun id w holds => ?_, fun id other w holds => ?_⟩
  · rw [none] at holds
    cases holds
  · rw [none] at holds
    cases holds

end Session

end WatchRelay
