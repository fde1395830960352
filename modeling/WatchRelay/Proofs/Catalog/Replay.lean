import WatchRelay.Proofs.Catalog.Order
import WatchRelay.Proofs.Catalog.Watching

/-! A watch that replays: what was stored when it opened and what changed since make up what is
stored. -/

namespace WatchRelay

/-- Resources by their keys. -/
abbrev Gathered := ResourceKey → Option Json

namespace Event

/-- The key of the resource an event is about. -/
def key? (e : Event) : Option ResourceKey :=
  match resourceName e.resource with
  | .ok name => some ⟨e.project, name⟩
  | .error _ => none

/-- What is gathered after one more event: a deleted resource is taken out, any other is put in. -/
def gatherOne (g : Gathered) (e : Event) : Gathered := fun key =>
  if e.key? = some key then if e.change = .deleted then none else some e.resource
  else g key

/-- What is gathered from events, one after the other. -/
def gather (events : List Event) : Gathered := events.foldl gatherOne fun _ => none

/-- The event that replays a resource. -/
def replayed (entry : ResourceKey × Json) : Event := ⟨.replayed, entry.1.project, entry.2⟩

end Event

namespace Feed

/-- The stored resources in the scope of a request, by their keys. -/
def inScope (f : Feed) (request : WatchRequest) : Gathered := fun key =>
  if request.inScope key.project then f.store.find? key else none

/-- What a replay is made from. -/
def kept (f : Feed) (request : WatchRequest) : List (ResourceKey × Json) :=
  f.store.filter fun entry => request.inScope entry.1.project

theorem replay_eq (f : Feed) (request : WatchRequest) :
    f.replay request = (f.kept request).map Event.replayed := rfl

/-- Whether a store is in order, with each resource under its own name. -/
structure Tidy (f : Feed) : Prop where
  sorted : f.store.Sorted
  named : f.store.Named

namespace Tidy

variable {f f' : Feed}

/-- A feed that takes a resource stays tidy. -/
theorem upsert (tidy : f.Tidy) {project : String} {resource : Json} {change : Change}
    (taken : f.upsert project resource = .ok (change, f')) : f'.Tidy := by
  obtain ⟨name, named, rfl, -⟩ := upsert_ok taken
  refine ⟨tidy.sorted.insert _ _, fun key value member => ?_⟩
  -- The new resource stands under its name, and the others where they stood.
  rcases Store.mem_insert member with new | old
  · cases new
    exact named
  · exact tidy.named key value old

/-- A feed that deletes a resource stays tidy. -/
theorem remove (tidy : f.Tidy) {kind : ResourceKind} {project name : String} {resource : Json}
    (taken : f.remove kind project name = .ok (resource, f')) : f'.Tidy := by
  -- Erasing keeps the order, and what is left was named before.
  obtain ⟨-, rfl⟩ := remove_ok taken
  exact ⟨tidy.sorted.erase _,
    fun key value member => tidy.named key value ((Store.erase_sublist _ _).subset member)⟩

end Tidy

/-- A change to one resource is gathered from the event about it, if it is in scope. -/
theorem gather_one {f f' : Feed} {e : Event} {name : String}
    (named : resourceName e.resource = .ok name)
    (own : f'.store.find? ⟨e.project, name⟩ =
      if e.change = .deleted then none else some e.resource)
    (others : ∀ key, (⟨e.project, name⟩ : ResourceKey) ≠ key →
      f'.store.find? key = f.store.find? key) (request : WatchRequest) :
    (request.select [e]).foldl Event.gatherOne (f.inScope request) = f'.inScope request := by
  have key : e.key? = some ⟨e.project, name⟩ := by rw [Event.key?, named]
  funext k
  -- An event in scope is about one key, and leaves the others as they were.
  by_cases covered : request.inScope e.project
  · have selected : request.select [e] = [e] := by simp [WatchRequest.select, covered]
    rw [selected]
    by_cases same : (⟨e.project, name⟩ : ResourceKey) = k
    · subst same
      simp [Event.gatherOne, key, inScope, covered, own]
    · simp [Event.gatherOne, key, same, inScope, others k same]
  · -- What is published out of scope changes nothing in scope.
    have foreign : request.select [e] = [] := by simp [WatchRequest.select, covered]
    rw [foreign, List.foldl_nil, inScope, inScope]
    split
    · next inside =>
      have differ : (⟨e.project, name⟩ : ResourceKey) ≠ k := by
        rintro rfl
        exact covered inside
      rw [others k differ]
    · rfl

/-- What is gathered from the replay of a store is what stands in it, in front of what was gathered
before. -/
theorem gather_replayed (request : WatchRequest) (key : ResourceKey) (s : Store)
    (sorted : s.Sorted) (named : s.Named) (g : Gathered) :
    ((s.filter fun entry => request.inScope entry.1.project).map Event.replayed).foldl
        Event.gatherOne g key =
      if request.inScope key.project then (s.find? key).or (g key) else g key := by
  -- The induction is on the store, and what was gathered before is any.
  induction s generalizing g with
  | nil => simp [Store.find?]
  | cons entry rest ih =>
    obtain ⟨below, sorted⟩ := List.pairwise_cons.mp sorted
    have own : (Event.replayed entry).key? = some entry.1 := by
      have name := named entry.1 entry.2 List.mem_cons_self
      rw [Event.key?, Event.replayed, name]
    have named : Store.Named rest := fun k v member => named k v (List.mem_cons_of_mem _ member)
    -- The first entry is replayed if it is in scope.
    by_cases covered : request.inScope entry.1.project
    · rw [List.filter_cons, if_pos covered, List.map_cons, List.foldl_cons, ih sorted named]
      by_cases same : entry.1 = key
      · -- The key does not stand a second time behind its entry.
        have missing : Store.find? key rest = none := Store.find?_of_below (same ▸ below)
        subst same
        rw [if_pos covered, missing, Event.gatherOne, if_pos own]
        simp [covered, Store.find?, Event.replayed]
      · simp [Store.find?, same, Event.gatherOne, own]
    · rw [List.filter_cons, if_neg covered, ih sorted named]
      split
      · next inside =>
        have differ : entry.1 ≠ key := by
          rintro rfl
          exact covered inside
        simp [Store.find?, differ]
      · rfl

/-- What is in scope is gathered from its replay. -/
theorem Tidy.gather_replay {f : Feed} (tidy : f.Tidy) (request : WatchRequest) :
    Event.gather (f.replay request) = f.inScope request := by
  -- The replay adds each kept resource once, so gathering it finds the store's own.
  funext key
  rw [Event.gather, replay_eq, kept, gather_replayed request key _ tidy.sorted tidy.named, inScope]
  simp

end Feed

namespace Hub

/-- Whether the feed of each kind is tidy, and no watch has a number that is still to be given. -/
structure Tidy (h : Hub) : Prop where
  feeds : ∀ kind, (h.feed kind).Tidy
  fresh : h.Fresh

namespace Acts

variable {h h' : Hub} {kind : ResourceKind} {action : HubAction} {change : Option Event}

/-- What an action changes in scope is gathered from what it publishes. -/
theorem gather (acts : h.Acts kind action change h') (tidy : h.Tidy) (request : WatchRequest) :
    (request.select change.toList).foldl Event.gatherOne ((h.feed kind).inScope request) =
      (h'.feed kind).inScope request := by
  cases acts with
  | refused => rfl
  | @upserted k project resource change f taken =>
    obtain ⟨name, named, rfl, which⟩ := Feed.upsert_ok taken
    have stays : change ≠ .deleted := by rcases which with rfl | rfl <;> simp
    rw [feed_set]
    split
    · next same =>
      -- The resource stands under its name now, and under the other keys nothing has changed.
      subst same
      refine Feed.gather_one named ?_ (fun key differ => ?_) request
      · simp [stays]
      · exact Store.find?_insert_of_ne differ _ _
    · rfl
  | @removed k project name resource f taken =>
    obtain ⟨found, rfl⟩ := Feed.remove_ok taken
    rw [feed_set]
    split
    · next same =>
      subst same
      -- The resource stood under its own name, and under no other key.
      obtain ⟨sorted, named⟩ := tidy.feeds k
      refine Feed.gather_one (named _ _ (Store.mem_of_find? found)) ?_
        (fun key differ => ?_) request
      · simp [sorted.find?_erase_self]
      · exact Store.find?_erase_of_ne differ _
    · rfl
  | opened opened =>
    obtain ⟨-, rfl⟩ := openWatch_ok opened
    rfl
  | read watch =>
    have same : (h.read watch).2.feed kind = h.feed kind :=
      congrArg (·.get kind) (h.read_frame watch).1
    rw [same]
    rfl
  | closed => rfl

/-- Every action leaves the catalog tidy. -/
theorem tidy (acts : h.Acts kind action change h') (tidy : h.Tidy) : h'.Tidy := by
  refine ⟨fun other => ?_, acts.fresh tidy.fresh⟩
  -- Only taking and deleting a resource touch a store.
  cases acts with
  | refused => exact tidy.feeds other
  | @upserted k _ _ _ _ taken =>
    rw [feed_set]
    split
    · exact (tidy.feeds k).upsert taken
    · exact tidy.feeds other
  | @removed k _ _ _ _ taken =>
    rw [feed_set]
    split
    · exact (tidy.feeds k).remove taken
    · exact tidy.feeds other
  | opened opened =>
    obtain ⟨-, rfl⟩ := openWatch_ok opened
    exact tidy.feeds other
  | read watch =>
    have same : (h.read watch).2.feed other = h.feed other :=
      congrArg (·.get other) (h.read_frame watch).1
    rw [same]
    exact tidy.feeds other
  | closed => exact tidy.feeds other

end Acts

/-- A catalog without resources is tidy. -/
theorem tidy_empty (capacity : Nat) (requireToken : Bool) : (empty capacity requireToken).Tidy where
  -- Every feed begins empty.
  feeds kind := by
    rw [feed_empty]
    exact ⟨List.Pairwise.nil, fun _ _ member => by cases member⟩
  fresh _ _ := rfl

/-- Every catalog that comes about is tidy. -/
theorem Tidy.after {h : Hub} (tidy : h.Tidy) (actions : List HubAction) :
    (h.after actions).Tidy := by
  -- By induction on the actions, each of which keeps the hub tidy.
  induction actions generalizing h with
  | nil => exact tidy
  | cons action rest ih => exact ih ((h.act_acts .registry action).tidy tidy)

/-- What changes in scope is gathered from the changes, one after the other. -/
theorem Tidy.gather {h : Hub} (tidy : h.Tidy) (request : WatchRequest) (kind : ResourceKind)
    (actions : List HubAction) :
    (request.select (h.changes kind actions)).foldl Event.gatherOne
    ((h.feed kind).inScope request) =
      ((h.after actions).feed kind).inScope request := by
  induction actions generalizing h with
  | nil => rfl
  | cons action rest ih =>
    have acts := h.act_acts kind action
    rw [changes, WatchRequest.select_append, List.foldl_append, acts.gather tidy request]
    -- The rest is gathered behind the first change.
    exact ih (acts.tidy tidy)

/-- A live watch yields its replay first. -/
theorem items_replay {h : Hub} {id : Nat} {w : Watch} (known : id < h.nextWatch)
    (there : h.watch? id = some w) (live : w.phase = .live) (actions : List HubAction)
    (unclosed : .close id ∉ actions) :
    (h.items id actions).take w.replay.length <+: w.replay.map WatchItem.event := by
  induction actions generalizing h w with
  | nil => simp [items]
  | cons action rest ih =>
    have kept : .close id ∉ rest := fun member => unclosed (List.mem_cons_of_mem _ member)
    have acts := h.act_acts .registry action
    have known' := Nat.lt_of_lt_of_le known acts.frame.2
    by_cases reads : action = .read id
    · subst reads
      -- A reading takes the first of what is left to replay.
      cases whole : w.replay with
      | nil => simp
      | cons event others =>
        have next := Watch.next_of_replay live whole (h.feed w.request.kind) h.room
        have found : (h.act (.read id)).watch? id = some { w with replay := others } := by
          rw [act, watch?_read, if_pos rfl, there, Option.map_some, next]
        have item : h.item? id (.read id) = some (.event event) := by
          rw [item?, if_pos rfl, read_item there, next]
        rw [items, item, Option.toList_some, List.singleton_append, List.length_cons,
          List.take_succ_cons, List.map_cons]
        exact List.cons_prefix_cons.mpr ⟨rfl, ih known' found live kept⟩
    · -- Another action leaves the watch as it is.
      have closes : action ≠ .close id := fun same => unclosed (same ▸ List.mem_cons_self)
      have silent : h.item? id action = none := item?_of_ne reads
      rw [items, silent, Option.toList_none, List.nil_append]
      exact ih known' ((acts.watch? known reads closes).trans there) live kept

/-- Once a watch that replays finds nothing more to read, it has brought all that is stored. -/
theorem Tidy.gather_received {h opened : Hub} (tidy : h.Tidy) {request : WatchRequest}
    {credentials : Credentials} {watch : Nat}
    (opens : h.openWatch request credentials = .ok (watch, opened))
    (later : List HubAction)
    (all : (opened.items watch later).filterMap WatchItem.event? =
      (h.feed request.kind).replay request ++
        request.select (opened.changes request.kind later)) :
    Event.gather ((opened.items watch later).filterMap WatchItem.event?) =
      ((opened.after later).feed request.kind).inScope request := by
  have same : h.act (.openWatch request credentials) = opened := by simp [act, opens]
  have acts := h.act_acts request.kind (.openWatch request credentials)
  rw [same] at acts
  -- The replay brings what is stored at first, and the changes bring the rest.
  have first := (tidy.feeds request.kind).gather_replay request
  have rest := (acts.tidy tidy).gather request request.kind later
  rw [← acts.gather tidy request] at rest
  rw [all, Event.gather, List.foldl_append, ← Event.gather, first]
  exact rest

/-- A watch that replays joins what was stored when it opened to what has changed since.

The resources in its scope come first, in the order of their keys and as they were stored then.

The changes made after it opened follow, in order and without any made before.

Once it finds nothing more to read, what is gathered from it is what is stored in its scope. -/
theorem replay_joins_changes (capacity : Nat) (requireToken : Bool) (before later : List HubAction)
    (kind : ResourceKind) (project : String) (credentials : Credentials) (watch : Nat)
    (opened : Hub)
    (opens : ((empty capacity requireToken).after before).openWatch ⟨kind, project, false⟩
      credentials = .ok (watch, opened)) :
    let request : WatchRequest := ⟨kind, project, false⟩
    let stored := (((empty capacity requireToken).after before).feed kind).store
    let received := (opened.items watch later).filterMap WatchItem.event?
    let changes := request.select (opened.changes kind later)
    ∃ kept : List (ResourceKey × Json),
      (kept.Pairwise fun a b => a.1.before b.1 = true) ∧
      (∀ key value, (key, value) ∈ kept ↔
        request.inScope key.project = true ∧ stored.find? key = some value) ∧
      (.close watch ∉ later → (opened.items watch later).take kept.length <+:
        kept.map fun entry => .event (.replayed entry)) ∧
      received <+: kept.map Event.replayed ++ changes ∧
      (((opened.after later).read watch).1 = .pending ∨
          ((opened.after later).read watch).1 = .passed →
        received = kept.map Event.replayed ++ changes ∧
        ∀ key, Event.gather received key =
          if request.inScope key.project then
            ((opened.after later).feed kind).store.find? key
          else none) := by
  intro request stored received changes
  have tidy := (tidy_empty capacity requireToken).after before
  have tracks := (tidy.fresh.tracks opens).after later
  -- The replay is what is stored in scope when the watch opens.
  refine ⟨Feed.kept _ request, ?_, fun key value => ?_, ?_, tracks.bounded, fun idle => ?_⟩
  · exact (tidy.feeds kind).sorted.sublist List.filter_sublist
  · rw [Feed.kept, List.mem_filter, and_comm]
    exact and_congr_right fun _ =>
      ⟨fun member => (tidy.feeds kind).sorted.find? member, Store.mem_of_find?⟩
  · intro unclosed
    have first := items_replay (tidy.fresh.tracks opens).known (tidy.fresh.watch?_opened opens) rfl
      later unclosed
    rw [if_neg (by simp), Feed.replay_eq, List.length_map, List.map_map] at first
    exact first
  · have all := tracks.settled idle
    refine ⟨all, fun key => ?_⟩
    exact congrFun (tidy.gather_received opens later all) key

/-- It holds of a watch that is opened between changes and read until it finds nothing more. -/
theorem replay_joins_changes_drained :
    let named (name : String) : Json := .object [("name", .string name)]
    let before : List HubAction :=
      [.upsert .application "p" (named "a"), .upsert .application "q" (named "b")]
    let later : List HubAction :=
      [.upsert .application "p" (named "c"), .read 0, .read 0,
        .remove .application "p" "a", .read 0]
    let request : WatchRequest := ⟨.application, "p", false⟩
    ∃ opened, ((empty 4 false).after before).openWatch request default = .ok (0, opened) ∧
      ((opened.after later).read 0).1 = .pending ∧
      ∀ key, Event.gather ((opened.items 0 later).filterMap WatchItem.event?) key =
        if request.inScope key.project then
          ((opened.after later).feed .application).store.find? key
        else none := by
  -- The first watch gets a number at once, so the opening is found by evaluation.
  intro named before later request
  have opens : ∃ opened, ((empty 4 false).after before).openWatch request default =
      .ok (0, opened) ∧ ((opened.after later).read 0).1 = .pending :=
        ⟨_, rfl, by decide +kernel⟩
  obtain ⟨opened, opens, pending⟩ := opens
  obtain ⟨_, -, -, -, -, settled⟩ :=
    replay_joins_changes 4 false before later .application "p" default 0 opened opens
  exact ⟨opened, opens, pending, (settled (.inl pending)).2⟩

end Hub

end WatchRelay
