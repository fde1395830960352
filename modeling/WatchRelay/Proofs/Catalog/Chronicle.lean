import WatchRelay.Proofs.Catalog.Replay

/-! The log of a feed: what is published about each resource, one event for each call that succeeds,
tells what is stored. -/

namespace WatchRelay

/-- Whether a value is an object that carries a name, which is not empty. -/
def Json.IsNamed (name : String) (value : Json) : Prop :=
  name ≠ "" ∧
    ∃ members, value = .object members ∧ Members.find? "name" members = some (.string name)

/-- The name of a resource is the one it carries. -/
theorem resourceName_eq_ok {resource : Json} {name : String} :
    resourceName resource = .ok name ↔ resource.IsNamed name := by
  unfold resourceName Json.IsNamed
  split
  · next members =>
    -- An object has the name that its member tells, if that is a text and not empty.
    cases member : Members.find? "name" members with
    | none => simp [member]
    | some value =>
      cases value with
      | string text =>
        simp only [Option.bind_some, Json.asString?, String.isEmpty_iff, Json.object.injEq,
          exists_eq_left', member, Option.some.injEq, Json.string.injEq]
        split
        · next empty =>
          constructor
          · intro none
            cases none
          · rintro ⟨filled, rfl⟩
            exact absurd empty filled
        · next filled =>
          simp only [Except.ok.injEq]
          exact ⟨fun same => ⟨same ▸ filled, same⟩, And.right⟩
      | _ => simp [member, Json.asString?]
  · next other => simp_all

namespace Change

/-- A round of changes that is not over: a resource is created, and then updated so many times. -/
def begun (updates : Nat) : List Change := .created :: List.replicate updates .updated

/-- Rounds of changes, each of which ends when the resource is deleted. -/
def rounds (updates : List Nat) : List Change := updates.flatMap fun n => begun n ++ [.deleted]

/-- Whether changes come in rounds, of which the last is not over if the resource is stored. -/
def InRounds (stored : Bool) (changes : List Change) : Prop :=
  ∃ former last, changes = rounds former ++ Option.elim last [] begun ∧ last.isSome = stored

/-- Whether a change puts a resource where it was not, or in the place of one. -/
def puts : Change → Bool
  | .created | .updated => true
  | .deleted | .replayed => false

namespace InRounds

variable {changes : List Change}

theorem nil : InRounds false [] := ⟨[], none, rfl, rfl⟩

/-- A resource that is not stored begins a round when it is created. -/
theorem created (held : InRounds false changes) : InRounds true (changes ++ [.created]) := by
  -- A created resource opens a round, where none is open.
  obtain ⟨former, last, rfl, closed⟩ := held
  cases last with
  | none => exact ⟨former, some 0, by simp [begun], rfl⟩
  | some _ => cases closed

/-- A round goes on when the resource is updated. -/
theorem updated (held : InRounds true changes) : InRounds true (changes ++ [.updated]) := by
  -- An update goes on with the round that is open.
  obtain ⟨former, last, rfl, opened⟩ := held
  cases last with
  | none => cases opened
  | some n => exact ⟨former, some (n + 1), by simp [begun, List.replicate_succ'], rfl⟩

/-- A round is over when the resource is deleted. -/
theorem deleted (held : InRounds true changes) : InRounds false (changes ++ [.deleted]) := by
  -- A deletion closes the round that is open.
  obtain ⟨former, last, rfl, opened⟩ := held
  cases last with
  | none => cases opened
  | some n => exact ⟨former ++ [n], none, by simp [rounds], rfl⟩

end InRounds

end Change

namespace Event

/-- The events about one resource. -/
def about (key : ResourceKey) (events : List Event) : List Event :=
  events.filter fun e => e.key? = some key

theorem about_concat_self {e : Event} {key : ResourceKey} (own : e.key? = some key)
    (events : List Event) : about key (events ++ [e]) = about key events ++ [e] := by
  simp [about, own]

theorem about_concat_of_ne {e : Event} {key other : ResourceKey} (own : e.key? = some key)
    (differ : key ≠ other) (events : List Event) :
    about other (events ++ [e]) = about other events := by
  simp [about, own, differ]

end Event

namespace Feed

/-- What is published when the resource under a key changes, and what is stored there then. -/
inductive Turns (f : Feed) (key : ResourceKey) : Event → Option Json → Prop where
  | created (free : f.store.find? key = none) (value : Json) :
      Turns f key ⟨.created, key.project, value⟩ (some value)
  | updated {old : Json} (there : f.store.find? key = some old) (value : Json) :
      Turns f key ⟨.updated, key.project, value⟩ (some value)
  | deleted {value : Json} (there : f.store.find? key = some value) :
      Turns f key ⟨.deleted, key.project, value⟩ none

/-- How a call that succeeds takes a feed on: it publishes one event, and what it changes in the
store is under the key of that event. -/
structure Publishes (f : Feed) (key : ResourceKey) (e : Event) (f' : Feed) : Prop where
  about : e.key? = some key
  log : f'.log.toList = f.log.toList ++ [e]
  turns : f.Turns key e (f'.store.find? key)
  others : ∀ other, key ≠ other → f'.store.find? other = f.store.find? other

variable {f f' : Feed}

/-- A feed that takes a resource publishes that it was created or updated. -/
theorem upsert_publishes {project : String} {resource : Json} {change : Change}
    (taken : f.upsert project resource = .ok (change, f')) :
    ∃ key, f.Publishes key ⟨change, project, resource⟩ f' := by
  obtain ⟨name, named, rfl, -⟩ := upsert_ok taken
  refine ⟨⟨project, name⟩, by simp [Event.key?, named], by simp, ?_,
    fun other differ => Store.find?_insert_of_ne differ _ _⟩
  -- What was stored under the name decides which of the two it is.
  have which :
      change = if (f.store.find? ⟨project, name⟩).isSome then .updated else .created := by
    simp only [upsert, named] at taken
    cases taken
    rfl
  rw [Store.find?_insert_self, which]
  cases there : f.store.find? ⟨project, name⟩ with
  | none => exact .created there resource
  | some old => exact .updated there resource

/-- A feed that deletes a resource publishes its last state. -/
theorem Tidy.remove_publishes (tidy : f.Tidy) {kind : ResourceKind} {project name : String}
    {resource : Json} (taken : f.remove kind project name = .ok (resource, f')) :
    f.Publishes ⟨project, name⟩ ⟨.deleted, project, resource⟩ f' := by
  obtain ⟨found, rfl⟩ := remove_ok taken
  have named := tidy.named _ _ (Store.mem_of_find? found)
  refine ⟨by simp [Event.key?, named], by simp, ?_,
    fun other differ => Store.find?_erase_of_ne differ _⟩
  -- Each key is in the store once, so nothing is left under it.
  rw [tidy.sorted.find?_erase_self]
  exact .deleted found

/-- How the log of a feed stands to what is stored. -/
structure Chronicled (f : Feed) : Prop where
  /-- The changes to each resource come in rounds, of which the last goes on while it is stored. -/
  rounds : ∀ key, Change.InRounds (f.store.find? key).isSome
    ((Event.about key f.log.toList).map Event.change)
  /-- A resource is stored as the last event about it brought it. -/
  latest : ∀ key value, f.store.find? key = some value →
    ∃ p, (Event.about key f.log.toList).getLast? = some p ∧ p.change.puts = true ∧
      p.resource = value
  /-- A resource is deleted as the event before about it brought it. -/
  deleted : ∀ before e after, f.log.toList = before ++ e :: after → e.change = .deleted →
    ∃ key p, e.key? = some key ∧ (Event.about key before).getLast? = some p ∧
      p.change.puts = true ∧ p.resource = e.resource

/-- The feed without resources has nothing to tell. -/
theorem chronicled_empty : empty.Chronicled where
  -- Without changes nothing is stored and no round is open.
  rounds _ := .nil
  latest _ _ found := by cases found
  deleted before e after whole := by simp [empty] at whole

namespace Publishes

variable {key : ResourceKey} {e : Event}

/-- What is published goes on with the round of its resource. -/
theorem rounds (publishes : f.Publishes key e f') (told : f.Chronicled) (other : ResourceKey) :
    Change.InRounds (f'.store.find? other).isSome
      ((Event.about other f'.log.toList).map Event.change) := by
  obtain ⟨about, log, turns, others⟩ := publishes
  have before := told.rounds other
  -- The change is the last one about its own key, and none about the others.
  rw [log]
  by_cases same : key = other
  · subst same
    rw [Event.about_concat_self about, List.map_append]
    generalize f'.store.find? key = stored at turns
    cases turns with
    | created free _ =>
      rw [free] at before
      exact before.created
    | updated there _ =>
      rw [there] at before
      exact before.updated
    | deleted there =>
      rw [there] at before
      exact before.deleted
  · rw [others other same, Event.about_concat_of_ne about same]
    exact before

/-- What is stored is as the last event about it brought it. -/
theorem latest (publishes : f.Publishes key e f') (told : f.Chronicled) (other : ResourceKey)
    (value : Json) (found : f'.store.find? other = some value) :
    ∃ p, (Event.about other f'.log.toList).getLast? = some p ∧ p.change.puts = true ∧
      p.resource = value := by
  obtain ⟨about, log, turns, others⟩ := publishes
  rw [log]
  -- The last change about its own key is this one, and about another key it is as before.
  by_cases same : key = other
  · subst same
    rw [Event.about_concat_self about]
    refine ⟨e, List.getLast?_concat, ?_⟩
    rw [found] at turns
    cases turns <;> exact ⟨rfl, rfl⟩
  · rw [Event.about_concat_of_ne about same]
    rw [others other same] at found
    exact told.latest other value found

/-- A feed that publishes an event still tells what is stored. -/
theorem chronicled (publishes : f.Publishes key e f') (told : f.Chronicled) : f'.Chronicled where
  rounds := publishes.rounds told
  latest := publishes.latest told
  deleted before d after whole gone := by
    rw [publishes.log] at whole
    rcases List.eq_nil_or_concat after with rfl | ⟨rest, final, rfl⟩
    · -- The event that deletes is the new one.
      -- What was stored was brought by the last before it.
      obtain ⟨rfl, last⟩ := List.append_inj' whole rfl
      obtain rfl : e = d := by simpa using last
      have turns := publishes.turns
      generalize f'.store.find? key = stored at turns
      cases turns with
      | deleted there =>
        obtain ⟨p, latest⟩ := told.latest key _ there
        exact ⟨key, p, publishes.about, latest⟩
      | _ => cases gone
    · -- The event that deletes was there before.
      rw [List.concat_eq_append, ← List.cons_append, ← List.append_assoc] at whole
      exact told.deleted before d rest (List.append_inj' whole rfl).1 gone

end Publishes

end Feed

namespace HubAction

/-- The kind whose resources an action is to change. -/
def kind? : HubAction → Option ResourceKind
  | .upsert kind _ _ | .remove kind _ _ => some kind
  | .openWatch _ _ | .read _ | .close _ => none

end HubAction

namespace Hub

/-- The fault for which a change to the resources is refused. -/
def fault? (h : Hub) : HubAction → Option CatalogFault
  | .upsert kind project resource =>
    match h.upsert kind project resource with
    | .ok _ => none
    | .error fault => some fault
  | .remove kind project name =>
    match h.remove kind project name with
    | .ok _ => none
    | .error fault => some fault
  | .openWatch _ _ | .read _ | .close _ => none

/-- An action publishes an event about a kind if it is to change a resource of the kind and is not
refused. -/
theorem change?_isSome (h : Hub) (kind : ResourceKind) (action : HubAction) :
    (h.change? kind action).isSome = true ↔
    action.kind? = some kind ∧ h.fault? action = none := by
  -- A call on the kind is a change unless it finds fault.
  cases action with
  | upsert k project resource =>
    simp only [change?, fault?, HubAction.kind?]
    cases taken : h.upsert k project resource with
    | ok _ => by_cases own : k = kind <;> simp [own]
    | error _ => simp
  | remove k project name =>
    simp only [change?, fault?, HubAction.kind?]
    cases taken : h.remove k project name with
    | ok _ => by_cases own : k = kind <;> simp [own]
    | error _ => simp
  | _ => simp [change?, HubAction.kind?]

/-- What is refused changes nothing. -/
theorem act_of_fault {h : Hub} {action : HubAction} (refused : (h.fault? action).isSome = true) :
    h.act action = h := by
  -- A call that finds fault hands back the hub it was given.
  cases action with
  | upsert k project resource =>
    simp only [fault?] at refused
    split at refused
    · cases refused
    · next faulty => simp [act, faulty]
  | remove k project name =>
    simp only [fault?] at refused
    split at refused
    · cases refused
    · next faulty => simp [act, faulty]
  | _ => cases refused

/-- A resource is taken if and only if it is an object with a name. -/
theorem fault?_upsert {h : Hub} {kind : ResourceKind} {project : String} {resource : Json} :
    h.fault? (.upsert kind project resource) = none ↔ ∃ name, resource.IsNamed name := by
  -- A call to put a resource fails in finding its name, or not at all.
  have named : (∃ name, resource.IsNamed name) ↔ ∃ name, resourceName resource = .ok name :=
    exists_congr fun _ => resourceName_eq_ok.symm
  rw [named]
  simp only [fault?, Hub.upsert, Feed.upsert]
  cases resourceName resource <;> simp [bind, Except.bind]

/-- A resource is deleted if and only if it is stored. -/
theorem fault?_remove {h : Hub} {kind : ResourceKind} {project name : String} :
    h.fault? (.remove kind project name) = none ↔
      ((h.feed kind).store.find? ⟨project, name⟩).isSome = true := by
  simp only [fault?, Hub.remove, Feed.remove]
  cases (h.feed kind).store.find? ⟨project, name⟩ <;> simp [bind, Except.bind]

/-- Every action leaves the log of each feed telling what is stored. -/
theorem Acts.chronicled {h h' : Hub} {kind : ResourceKind} {action : HubAction}
    {change : Option Event} (acts : h.Acts kind action change h') (tidy : h.Tidy)
    (told : (h.feed kind).Chronicled) : (h'.feed kind).Chronicled := by
  -- Only a change of the kind adds to its log, and it is one of its store.
  cases acts with
  | refused => exact told
  | upserted taken =>
    rw [feed_set]
    split
    · next same =>
      subst same
      obtain ⟨key, publishes⟩ := Feed.upsert_publishes taken
      exact publishes.chronicled told
    · exact told
  | @removed k _ _ _ _ taken =>
    rw [feed_set]
    split
    · next same =>
      subst same
      exact ((tidy.feeds k).remove_publishes taken).chronicled told
    · exact told
  | opened opened =>
    obtain ⟨-, rfl⟩ := openWatch_ok opened
    exact told
  | read watch =>
    have same : (h.read watch).2.feed kind = h.feed kind :=
      congrArg (·.get kind) (h.read_frame watch).1
    rw [same]
    exact told
  | closed => exact told

/-- The log of each feed tells what is stored after any actions. -/
theorem Tidy.chronicled {h : Hub} (tidy : h.Tidy) {kind : ResourceKind}
    (told : (h.feed kind).Chronicled) (actions : List HubAction) :
    ((h.after actions).feed kind).Chronicled := by
  -- The tale is kept by each action in turn, along with the order of the store.
  induction actions generalizing h with
  | nil => exact told
  | cons action rest ih =>
    have acts := h.act_acts kind action
    exact ih (acts.tidy tidy) (acts.chronicled tidy told)

/-- What is gathered from all that is published about a kind is what is stored. -/
theorem gather_changes (capacity : Nat) (requireToken : Bool) (actions : List HubAction)
    (kind : ResourceKind) :
    Event.gather ((empty capacity requireToken).changes kind actions) =
      fun key => (((empty capacity requireToken).after actions).feed kind).store.find? key := by
  -- A request without a project has every project in scope.
  let every : WatchRequest := ⟨kind, "", false⟩
  have covered (project : String) : every.inScope project = true := rfl
  have all (events : List Event) : every.select events = events :=
    List.filter_eq_self.mpr fun e _ => covered e.project
  have stored (f : Feed) : f.inScope every = fun key => f.store.find? key := rfl
  have gathered := (tidy_empty capacity requireToken).gather every kind actions
  have bare : ((empty capacity requireToken).feed kind).store = [] := by
    rw [feed_empty]
    rfl
  rw [all, stored, stored, bare] at gathered
  exact gathered

/-- The log of a kind has one event for each call on it that succeeds, in the order of the calls.

The changes to each resource come in rounds: created, updated any number of times, and deleted.
The last round goes on while the resource is stored.

A resource is deleted, and given back, as the event before about it brought it.

What is gathered from the log is what is stored, each under the name that it carries.

A call that is refused changes nothing.
It is one with a resource that is no object with a name, or for a resource that is not stored. -/
theorem log_tells_store (capacity : Nat) (requireToken : Bool) (actions : List HubAction)
    (kind : ResourceKind) :
    let start := empty capacity requireToken
    let h := start.after actions
    let log := (h.feed kind).log.toList
    let store := (h.feed kind).store
    log = start.changes kind actions ∧
    (∀ call, (h.change? kind call).isSome = true ↔
      call.kind? = some kind ∧ h.fault? call = none) ∧
    (∀ key, Change.InRounds (store.find? key).isSome ((Event.about key log).map Event.change)) ∧
    (∀ before e after, log = before ++ e :: after → e.change = .deleted →
      ∃ key p, e.key? = some key ∧ (Event.about key before).getLast? = some p ∧
        p.change.puts = true ∧ p.resource = e.resource) ∧
    (∀ project name resource h', h.remove kind project name = .ok (resource, h') →
      ∃ p, (Event.about ⟨project, name⟩ log).getLast? = some p ∧ p.change.puts = true ∧
        p.resource = resource) ∧
    (∀ key value, (key, value) ∈ store ↔ Event.gather log key = some value) ∧
    (∀ key value, (key, value) ∈ store → value.IsNamed key.name) ∧
    (∀ call, (h.fault? call).isSome = true → h.act call = h) ∧
    (∀ project resource, h.fault? (.upsert kind project resource) = none ↔
      ∃ name, resource.IsNamed name) ∧
    ∀ project name, h.fault? (.remove kind project name) = none ↔
      ∃ value, (⟨project, name⟩, value) ∈ store := by
  intro start h log store
  have tidy := tidy_empty capacity requireToken
  have feed : start.feed kind = .empty := feed_empty capacity requireToken kind
  have told : (h.feed kind).Chronicled :=
    tidy.chronicled (feed.symm ▸ Feed.chronicled_empty) actions
  obtain ⟨sorted, named⟩ := (tidy.after actions).feeds kind
  -- As the store is sorted by distinct keys, to hold a resource is to find it.
  have stored (key : ResourceKey) (value : Json) :
      (key, value) ∈ store ↔ store.find? key = some value :=
        ⟨sorted.find?, Store.mem_of_find?⟩
  -- The log begins empty, and each call adds what it changes.
  have published : log = start.changes kind actions := by
    have all := start.after_log kind actions
    rw [feed] at all
    exact all
  refine ⟨published, h.change?_isSome kind, told.rounds, told.deleted,
    fun project name resource h' removed => ?_, fun key value => ?_,
    fun key value member => resourceName_eq_ok.mp (named key value member),
    fun call refused => act_of_fault refused, fun project resource => fault?_upsert,
    fun project name => fault?_remove.trans ?_⟩
  · -- The resource that is given back is the one that was stored.
    simp only [Hub.remove] at removed
    cases taken : (h.feed kind).remove kind project name with
    | error fault => rw [taken] at removed; cases removed
    | ok result =>
      rw [taken] at removed
      cases removed
      exact told.latest _ _ (Feed.remove_ok taken).1
  · rw [stored, published, gather_changes]
  · exact Option.isSome_iff_exists.trans (exists_congr fun value => (stored _ value).symm)

/-- It holds of a resource that is created, updated, deleted and created again while calls are
refused and another of the same name comes and goes. -/
theorem log_tells_store_recreated :
    let named (size : Int) : Json :=
      .object [("name", .string "a"), ("size", .number (.integer size))]
    let actions : List HubAction :=
      [.upsert .application "p" (named 1), .upsert .application "p" .null,
        .upsert .application "q" (named 2), .upsert .application "p" (named 3),
        .upsert .artifact "p" (named 4), .remove .application "p" "a",
        .remove .application "p" "a", .upsert .application "p" (named 5)]
    let h := (empty 4 false).after actions
    let log := (h.feed .application).log.toList
    log.map Event.change = [.created, .created, .updated, .deleted, .created] ∧
      Event.gather log ⟨"p", "a"⟩ = some (named 5) ∧
      ∃ p, (Event.about ⟨"p", "a"⟩ log).getLast? = some p ∧ p.resource = named 5 := by
  -- What was removed and gathered is told by the theorem, and the log is computed.
  intro named actions h log
  obtain ⟨-, -, -, -, removed, gathered, -⟩ := log_tells_store 4 false actions .application
  obtain ⟨h', taken⟩ : ∃ h', h.remove .application "p" "a" = .ok (named 5, h') := ⟨_, rfl⟩
  obtain ⟨p, latest, -, same⟩ := removed "p" "a" (named 5) h' taken
  exact ⟨by decide +kernel, (gathered ⟨"p", "a"⟩ (named 5)).mp (by decide +kernel),
    p, latest, same⟩

end Hub

end WatchRelay
