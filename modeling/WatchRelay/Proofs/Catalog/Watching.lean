import WatchRelay.Proofs.Catalog.History
import WatchRelay.Proofs.Lookup

/-! Watches of a catalog: what one has still to yield, and how each action bears on it. -/

namespace WatchRelay

/-- The events in the scope of a request. -/
def WatchRequest.select (r : WatchRequest) (events : List Event) : List Event :=
  events.filter fun e => r.inScope e.project

@[simp] theorem WatchRequest.select_nil (r : WatchRequest) : r.select [] = [] := rfl

@[simp] theorem WatchRequest.select_append (r : WatchRequest) (a b : List Event) :
    r.select (a ++ b) = r.select a ++ r.select b := List.filter_append ..

/-- The event an item brings. -/
def WatchItem.event? : WatchItem → Option Event
  | .event e => some e
  | .failure _ | .ended | .passed | .pending => none

namespace Feed

/-- What is found next is the first event in scope that is left, and those behind it are left
then. -/
theorem nextInScope_some {f : Feed} {request : WatchRequest} {position behind : Nat} {event : Event}
    (found : f.nextInScope request position = some (event, behind)) :
    position < behind ∧ behind ≤ f.log.size ∧
      request.select (f.log.toList.drop position) =
        event :: request.select (f.log.toList.drop behind) := by
  -- The search goes on from one position to the next.
  induction position using nextInScope.induct f request with
  | case1 position inside covered =>
    rw [nextInScope, dif_pos inside, if_pos covered] at found
    cases found
    refine ⟨Nat.lt_succ_self _, inside, ?_⟩
    rw [List.drop_eq_getElem_cons (by simpa using inside)]
    simp [WatchRequest.select, covered]
  | case2 position inside foreign ih =>
    rw [nextInScope, dif_pos inside, if_neg foreign] at found
    obtain ⟨later, within, same⟩ := ih found
    refine ⟨Nat.lt_of_succ_lt later, within, ?_⟩
    rw [List.drop_eq_getElem_cons (by simpa using inside), ← same]
    simp [WatchRequest.select, foreign]
  | case3 position outside =>
    rw [nextInScope, dif_neg outside] at found
    cases found

/-- If nothing is found next, nothing in scope is left. -/
theorem nextInScope_none {f : Feed} {request : WatchRequest} {position : Nat}
    (missing : f.nextInScope request position = none) :
    request.select (f.log.toList.drop position) = [] := by
  -- The search goes along the log and ends at an event in scope, or at the end of the log.
  induction position using nextInScope.induct f request with
  | case1 position inside covered =>
    rw [nextInScope, dif_pos inside, if_pos covered] at missing
    cases missing
  | case2 position inside foreign ih =>
    rw [nextInScope, dif_pos inside, if_neg foreign] at missing
    rw [List.drop_eq_getElem_cons (by simpa using inside)]
    simpa [WatchRequest.select, foreign] using ih missing
  | case3 position outside =>
    rw [List.drop_eq_nil_of_le (by simpa using outside)]
    rfl

/-- A feed that takes a resource stores it under its name and publishes that. -/
theorem upsert_ok {f f' : Feed} {project : String} {resource : Json} {change : Change}
    (taken : f.upsert project resource = .ok (change, f')) :
    ∃ name, resourceName resource = .ok name ∧
      f' = ⟨f.store.insert ⟨project, name⟩ resource,
        f.log.push ⟨change, project, resource⟩⟩ ∧
        (change = .created ∨ change = .updated) := by
  -- A resource is taken once it has a name.
  unfold upsert at taken
  cases named : resourceName resource with
  | error fault => rw [named] at taken; cases taken
  | ok name =>
    rw [named] at taken
    cases taken
    refine ⟨name, rfl, rfl, ?_⟩
    split <;> simp

/-- A feed that deletes a resource takes it from under its key and publishes its last state. -/
theorem remove_ok {f f' : Feed} {kind : ResourceKind} {project name : String} {resource : Json}
    (taken : f.remove kind project name = .ok (resource, f')) :
    f.store.find? ⟨project, name⟩ = some resource ∧
      f' = ⟨f.store.erase ⟨project, name⟩,
        f.log.push ⟨.deleted, project, resource⟩⟩ := by
  -- A resource is removed if it is there.
  unfold remove at taken
  dsimp only at taken
  split at taken
  · cases taken
  · next found =>
    cases taken
    exact ⟨found, rfl⟩

end Feed

namespace Watch

/-- What a watch has still to yield: the rest of its replay, then what is published behind it. -/
def owed (w : Watch) (f : Feed) : List Event :=
  w.replay ++ w.request.select (f.log.toList.drop w.position)

/-- What reading from a live watch does. -/
inductive Reads (w : Watch) (f : Feed) (room : Nat) : WatchItem → Watch → Prop where
  | replayed {event : Event} {rest : List Event} (first : w.replay = event :: rest) :
      Reads w f room (.event event) { w with replay := rest }
  | published {event : Event} {behind : Nat} (done : w.replay = [])
      (near : f.log.size - w.position ≤ room)
      (found : f.nextInScope w.request w.position = some (event, behind)) :
      Reads w f room (.event event) { w with position := behind }
  /-- It has read past all that is published. -/
  | idle {item : WatchItem} (done : w.replay = []) (near : f.log.size - w.position ≤ room)
      (missing : f.nextInScope w.request w.position = none)
      (which : item = .pending ∨ item = .passed) :
      Reads w f room item { w with position := f.log.size }
  | lagged (done : w.replay = []) (far : room < f.log.size - w.position) :
      Reads w f room (.failure (.lagged (f.log.size - w.position - room)))
        { w with phase := .lagged }

/-- Every reading from a live watch is one of these. -/
theorem next_reads {w : Watch} (live : w.phase = .live) (f : Feed) (room : Nat) :
    w.Reads f room (w.next f room).1 (w.next f room).2 := by
  obtain ⟨request, replay, position, phase⟩ := w
  obtain rfl : phase = .live := live
  cases replay with
  | cons event rest => exact .replayed rfl
  | nil =>
    -- Behind the replay, the buffer decides whether there is an event to read.
    simp only [next]
    split
    · next far => exact .lagged rfl far
    · next near =>
      have near := Nat.le_of_not_lt near
      split
      · next found => exact .published rfl near found
      · next missing =>
        refine .idle rfl near missing ?_
        split
        · exact .inl rfl
        · exact .inr rfl

/-- A live watch yields what is left of its replay first. -/
theorem next_of_replay {w : Watch} (live : w.phase = .live) {event : Event} {rest : List Event}
    (first : w.replay = event :: rest) (f : Feed) (room : Nat) :
    w.next f room = (.event event, { w with replay := rest }) := by
  simp [next, live, first]

/-- A watch that is no longer live yields no event and stays so. -/
theorem next_of_not_live {w : Watch} (dead : w.phase ≠ .live) (f : Feed) (room : Nat) :
    (w.next f room).1 = .ended ∧ (w.next f room).2.request = w.request ∧
      (w.next f room).2.phase ≠ .live := by
  -- A watch that has fallen behind ends, and one that has ended stays so.
  unfold next
  split
  · exact ⟨rfl, rfl, dead⟩
  · exact ⟨rfl, rfl, by simp⟩
  · next live => exact absurd live dead

/-- How a live watch stands to its feed: what it has yielded and what it owes are what it was opened
with and what was published since. -/
structure Follows (w : Watch) (f : Feed) (kept changes received : List Event) : Prop where
  live : w.phase = .live
  plain : w.request.noReplay = true → w.replay = []
  published : changes <:+ f.log.toList
  since : f.log.size ≤ w.position + changes.length
  within : w.position ≤ f.log.size
  balance : received ++ w.owed f = kept ++ w.request.select changes

section

variable {w w' : Watch} {f f' : Feed} {room : Nat} {item : WatchItem}
  {kept changes received : List Event}

/-- Reading changes nothing about what a watch is asked for. -/
theorem Reads.request (reads : w.Reads f room item w') : w'.request = w.request := by
  cases reads <;> rfl

/-- A live watch has yielded no more than what it was opened with and what was published since. -/
theorem Follows.bounded (follows : w.Follows f kept changes received) :
    received <+: kept ++ w.request.select changes := ⟨_, follows.balance⟩

/-- What a reading yields is no longer owed, as long as the watch is live after it. -/
theorem Reads.follows (reads : w.Reads f room item w')
    (follows : w.Follows f kept changes received) (live : w'.phase = .live) :
    w'.Follows f kept changes (received ++ item.event?.toList) := by
  obtain ⟨-, plain, published, since, within, balance⟩ := follows
  cases reads with
  | replayed first =>
    refine ⟨live, fun bare => ?_, published, since, within, ?_⟩
    · -- A watch without a replay has nothing to replay first.
      rw [plain bare] at first
      cases first
    rw [← balance, owed, owed, first]
    simp [WatchItem.event?]
  -- The events that are skipped are out of scope, so they are not owed.
  | published done _ found =>
    obtain ⟨later, inside, same⟩ := Feed.nextInScope_some found
    have since : f.log.size ≤ _ + changes.length :=
      Nat.le_trans since (Nat.add_le_add_right (Nat.le_of_lt later) _)
    refine ⟨live, plain, published, since, inside, ?_⟩
    rw [← balance, owed, owed, done, same]
    simp [WatchItem.event?]
  | idle done _ missing which =>
    refine ⟨live, plain, published, Nat.le_add_right _ _, Nat.le_refl _, ?_⟩
    -- Nothing is yielded, and nothing in scope was left.
    have none : item.event? = none := by rcases which with rfl | rfl <;> rfl
    have past : f.log.toList.drop f.log.size = [] := List.drop_eq_nil_of_le (by simp)
    rw [← balance, owed, owed, done, Feed.nextInScope_none missing, past, none]
    simp
  | lagged _ _ => cases live

/-- A watch that falls behind yields no event. -/
theorem Reads.event?_of_lagged (reads : w.Reads f room item w') (live : w.phase = .live)
    (fallen : w'.phase ≠ .live) : item.event? = none := by
  -- Only falling behind ends a watch, and it yields no event.
  cases reads with
  | replayed _ => exact absurd live fallen
  | published _ _ _ => exact absurd live fallen
  | idle _ _ _ _ => exact absurd live fallen
  | lagged _ _ => rfl

/-- A watch that finds nothing to read owes nothing. -/
theorem Reads.settled (reads : w.Reads f room item w')
    (idle : item = .pending ∨ item = .passed) : w.owed f = [] := by
  -- A watch that has nothing to yield has no replay left and finds nothing more in scope.
  cases reads with
  | replayed _ => simp at idle
  | published _ _ _ => simp at idle
  | idle done _ missing _ => rw [owed, done, Feed.nextInScope_none missing, List.append_nil]
  | lagged _ _ => simp at idle

/-- What is published is owed to a live watch, if it is in its scope. -/
theorem Follows.publish {more : List Event} (follows : w.Follows f kept changes received)
    (grown : f'.log.toList = f.log.toList ++ more) :
    w.Follows f' kept (changes ++ more) received := by
  obtain ⟨live, plain, ⟨prior, published⟩, since, within, balance⟩ := follows
  -- The watch has read as much as before, and what is new is owed.
  have size : f'.log.size = f.log.size + more.length := by
    rw [← Array.length_toList, grown, List.length_append, Array.length_toList]
  refine ⟨live, plain, ⟨prior, ?_⟩, ?_, ?_, ?_⟩
  · rw [grown, ← published, List.append_assoc]
  · rw [size, List.length_append]
    omega
  · omega
  · rw [WatchRequest.select_append, ← List.append_assoc, ← balance, owed, owed, grown,
      List.drop_append_of_le_length (by simpa using within)]
    simp

/-- A live watch that has nothing to replay has yielded what it has read, and the rest is unread. -/
theorem Follows.split (follows : w.Follows f kept changes received) (done : w.replay = []) :
    ∃ read unread, changes = read ++ unread ∧ unread.length = f.log.size - w.position ∧
      w.owed f = w.request.select unread ∧ received = kept ++ w.request.select read := by
  obtain ⟨prior, published⟩ := follows.published
  -- What was published before the watch opened lies behind it.
  have lengths : prior.length + changes.length = f.log.size := by
    rw [← List.length_append, published, Array.length_toList]
  have since := follows.since
  have within := follows.within
  have behind : prior.length ≤ w.position := by omega
  have rest : f.log.toList.drop w.position = changes.drop (w.position - prior.length) := by
    rw [← published, List.drop_append, List.drop_eq_nil_of_le behind, List.nil_append]
  have owed : w.owed f = w.request.select (changes.drop (w.position - prior.length)) := by
    rw [Watch.owed, done, rest, List.nil_append]
  refine ⟨changes.take (w.position - prior.length), changes.drop (w.position - prior.length),
    (List.take_append_drop _ _).symm, ?_, owed, ?_⟩
  · rw [List.length_drop]
    omega
  · -- Both sides end with what is unread, so they agree before it.
    have balance := follows.balance
    rw [owed, ← List.take_append_drop (w.position - prior.length) changes,
      WatchRequest.select_append, List.take_append_drop, ← List.append_assoc] at balance
    exact List.append_cancel_right balance

end

end Watch

namespace Hub

/-- What an action can do, and the change to the resources of a kind that it makes. -/
inductive Acts (h : Hub) (kind : ResourceKind) : HubAction → Option Event → Hub → Prop where
  | refused (action : HubAction) : Acts h kind action none h
  | upserted {k : ResourceKind} {project : String} {resource : Json} {change : Change} {f : Feed}
      (taken : (h.feed k).upsert project resource = .ok (change, f)) :
      Acts h kind (.upsert k project resource)
        (if k = kind then some ⟨change, project, resource⟩ else none)
        { h with feeds := h.feeds.set k f }
  | removed {k : ResourceKind} {project name : String} {resource : Json} {f : Feed}
      (taken : (h.feed k).remove k project name = .ok (resource, f)) :
      Acts h kind (.remove k project name)
        (if k = kind then some ⟨.deleted, project, resource⟩ else none)
        { h with feeds := h.feeds.set k f }
  | opened {request : WatchRequest} {credentials : Credentials} {h' : Hub}
      (opened : h.openWatch request credentials = .ok (h.nextWatch, h')) :
      Acts h kind (.openWatch request credentials) none h'
  | read (watch : Nat) : Acts h kind (.read watch) none (h.read watch).2
  | closed (watch : Nat) : Acts h kind (.close watch) none (h.close watch)

/-- A watch that is opened has the next number; it has still to replay, and it has read nothing. -/
theorem openWatch_ok {h h' : Hub} {request : WatchRequest} {credentials : Credentials} {id : Nat}
    (opened : h.openWatch request credentials = .ok (id, h')) :
    id = h.nextWatch ∧
      h' = { h with
        watches := h.watches ++ [(h.nextWatch,
          ⟨request, if request.noReplay then [] else (h.feed request.kind).replay request,
            (h.feed request.kind).log.size, .live⟩)]
        nextWatch := h.nextWatch + 1 } := by
  -- A watch is opened at the end of the log, under the next number.
  unfold openWatch at opened
  split at opened
  · cases opened
  · cases opened
    exact ⟨rfl, rfl⟩

/-- Every action does one of these. -/
theorem act_acts (h : Hub) (kind : ResourceKind) (action : HubAction) :
    h.Acts kind action (h.change? kind action) (h.act action) := by
  cases action with
  | upsert k project resource =>
    -- What is refused changes nothing.
    simp only [act, change?, Hub.upsert]
    cases taken : (h.feed k).upsert project resource with
    | error fault => exact .refused _
    | ok result => exact .upserted taken
  | remove k project name =>
    simp only [act, change?, Hub.remove]
    cases taken : (h.feed k).remove k project name with
    | error fault => exact .refused _
    | ok result => exact .removed taken
  | openWatch request credentials =>
    simp only [act, change?]
    cases opened : h.openWatch request credentials with
    | error failure => exact .refused _
    | ok result =>
      obtain ⟨id, h'⟩ := result
      obtain ⟨rfl, -⟩ := openWatch_ok opened
      exact .opened opened
  | read watch => exact .read watch
  | close watch => exact .closed watch

/-- What is there under a number after a reading. -/
theorem watch?_read (h : Hub) (id j : Nat) :
    (h.read id).2.watch? j =
      if j = id then (h.watch? id).map fun w => (w.next (h.feed w.request.kind) h.room).2
      else h.watch? j := by
  unfold read
  -- A watch that is not there is not put there by reading.
  cases there : h.watch? id with
  | none =>
    by_cases same : j = id
    · simp [same, there]
    · simp [same]
  | some w =>
    have replaced := Lookup.replace h.watches id j (w.next (h.feed w.request.kind) h.room).2
    rw [← watch?, there] at replaced
    exact replaced

/-- What is there under a number after a watch is closed. -/
theorem watch?_close (h : Hub) (id j : Nat) :
    (h.close id).watch? j = if j = id then none else h.watch? j :=
  Lookup.filter_ne h.watches id j

/-- Reading from a watch changes nothing but watches. -/
theorem read_frame (h : Hub) (id : Nat) :
    (h.read id).2.feeds = h.feeds ∧ (h.read id).2.room = h.room ∧
      (h.read id).2.nextWatch = h.nextWatch := by
  -- Reading changes only the watch that is read.
  unfold read
  split
  · exact ⟨rfl, rfl, rfl⟩
  · exact ⟨rfl, rfl, rfl⟩

/-- What a reading gives is what the watch yields next. -/
theorem read_item {h : Hub} {id : Nat} {w : Watch} (there : h.watch? id = some w) :
    (h.read id).1 = (w.next (h.feed w.request.kind) h.room).1 := by
  simp [read, there]

/-- Reading from a live watch of the catalog does what reading from it does. -/
theorem read_reads {h : Hub} {id : Nat} {w : Watch} (there : h.watch? id = some w)
    (live : w.phase = .live) :
    ∃ w', (h.read id).2.watch? id = some w' ∧
      w.Reads (h.feed w.request.kind) h.room (h.read id).1 w' := by
  refine ⟨_, ?_, (read_item there).symm ▸ Watch.next_reads live _ _⟩
  rw [watch?_read, if_pos rfl, there, Option.map_some]

/-- A catalog without resources has a feed without resources for every kind. -/
theorem feed_empty (capacity : Nat) (requireToken : Bool) (kind : ResourceKind) :
    (empty capacity requireToken).feed kind = .empty := PerKind.get_const _ _

/-- The feed of a kind when the feed of some kind is replaced. -/
theorem feed_set (h : Hub) (k kind : ResourceKind) (f : Feed) :
    Hub.feed { h with feeds := h.feeds.set k f } kind = if k = kind then f else h.feed kind := by
  -- Only the feed of this kind is replaced.
  by_cases same : k = kind
  · simp [feed, same]
  · simp [feed, same, PerKind.get_set_of_ne _ (Ne.symm same)]

/-- Whether no watch has a number that is still to be given. -/
def Fresh (h : Hub) : Prop := ∀ id, h.nextWatch ≤ id → h.watch? id = none

namespace Acts

variable {h h' : Hub} {kind : ResourceKind} {action : HubAction} {change : Option Event}

/-- The room for unread events never changes, and numbers of watches are not given again. -/
theorem frame (acts : h.Acts kind action change h') :
    h'.room = h.room ∧ h.nextWatch ≤ h'.nextWatch := by
  -- Watches are only opened, so the next number only grows.
  cases acts with
  | refused => exact ⟨rfl, Nat.le_refl _⟩
  | upserted => exact ⟨rfl, Nat.le_refl _⟩
  | removed => exact ⟨rfl, Nat.le_refl _⟩
  | opened opened =>
    obtain ⟨-, rfl⟩ := openWatch_ok opened
    exact ⟨rfl, Nat.le_succ _⟩
  | read watch =>
    obtain ⟨-, room, next⟩ := h.read_frame watch
    exact ⟨room, Nat.le_of_eq next.symm⟩
  | closed => exact ⟨rfl, Nat.le_refl _⟩

/-- Each change to the resources of a kind is published, and nothing else. -/
theorem log (acts : h.Acts kind action change h') :
    (h'.feed kind).log.toList = (h.feed kind).log.toList ++ change.toList := by
  cases acts with
  | refused => simp
  | upserted taken =>
    -- The change is published in the feed of its own kind.
    obtain ⟨_, -, rfl, -⟩ := Feed.upsert_ok taken
    rw [feed_set]
    split
    · next same => simp [same]
    · simp
  | removed taken =>
    obtain ⟨-, rfl⟩ := Feed.remove_ok taken
    rw [feed_set]
    split
    · next same => simp [same]
    · simp
  -- Watches are no part of the feeds.
  | opened opened =>
    obtain ⟨-, rfl⟩ := openWatch_ok opened
    simp [feed]
  | read watch => simp [feed, (h.read_frame watch).1]
  | closed => simp [feed, close]

/-- No change in the catalog is a replay. -/
theorem ne_replayed (acts : h.Acts kind action change h') {c : Event} (changed : change = some c) :
    c.change ≠ .replayed := by
  -- A change that an action makes is a creation, an update or a deletion.
  cases acts with
  | upserted taken =>
    obtain ⟨_, -, -, which⟩ := Feed.upsert_ok taken
    split at changed
    · cases changed
      rcases which with rfl | rfl <;> simp
    · cases changed
  | removed _ =>
    split at changed
    · cases changed
      simp
    · cases changed
  | _ => cases changed

/-- A watch stays as it is, or away, unless it is read or closed. -/
theorem watch? (acts : h.Acts kind action change h') {id : Nat} (known : id < h.nextWatch)
    (unread : action ≠ .read id) (unclosed : action ≠ .close id) :
    h'.watch? id = h.watch? id := by
  cases acts with
  | refused => rfl
  | upserted => rfl
  | removed => rfl
  | opened opened =>
    -- The number of the new watch was not given before.
    obtain ⟨-, rfl⟩ := openWatch_ok opened
    have differ : id ≠ h.nextWatch := Nat.ne_of_lt known
    rw [Hub.watch?, Lookup.append, if_neg differ, Option.or_none, Hub.watch?]
  | read watch =>
    have differ : id ≠ watch := fun equal => unread (equal ▸ rfl)
    rw [watch?_read, if_neg differ]
  | closed watch =>
    have differ : id ≠ watch := fun equal => unclosed (equal ▸ rfl)
    rw [watch?_close, if_neg differ]

/-- No action gives a watch a number that is still to be given. -/
theorem fresh (acts : h.Acts kind action change h') (fresh : h.Fresh) : h'.Fresh := by
  intro id later
  have earlier := Nat.le_trans acts.frame.2 later
  -- Only the opening of a watch adds one, under the next number.
  cases acts with
  | refused => exact fresh id earlier
  | upserted => exact fresh id earlier
  | removed => exact fresh id earlier
  | opened opened =>
    obtain ⟨-, rfl⟩ := openWatch_ok opened
    -- The next number is given now, and those behind it are still to be given.
    have differ : id ≠ h.nextWatch := Nat.ne_of_gt later
    rw [Hub.watch?, Lookup.append, if_neg differ, Option.or_none]
    exact fresh id earlier
  | read watch =>
    rw [watch?_read]
    split
    · next same => simp [← same, fresh id earlier]
    · exact fresh id earlier
  | closed watch =>
    rw [watch?_close]
    split
    · rfl
    · exact fresh id earlier

end Acts

/-- Actions leave the room for unread events, and no number of a watch is given again. -/
theorem after_frame (h : Hub) (actions : List HubAction) :
    (h.after actions).room = h.room ∧ h.nextWatch ≤ (h.after actions).nextWatch ∧
      (h.Fresh → (h.after actions).Fresh) := by
  -- Each action leaves the room as it is and numbers watches upwards.
  induction actions generalizing h with
  | nil => exact ⟨rfl, Nat.le_refl _, id⟩
  | cons action rest ih =>
    have acts := h.act_acts .registry action
    obtain ⟨room, later, fresh⟩ := ih (h.act action)
    exact ⟨room.trans acts.frame.1, Nat.le_trans acts.frame.2 later,
      fun held => fresh (acts.fresh held)⟩

/-- The changes that actions make to the resources of a kind are published, and nothing else. -/
theorem after_log (h : Hub) (kind : ResourceKind) (actions : List HubAction) :
    ((h.after actions).feed kind).log.toList =
      (h.feed kind).log.toList ++ h.changes kind actions := by
  -- Each action publishes its own change behind those before it.
  induction actions generalizing h with
  | nil => exact (List.append_nil _).symm
  | cons action rest ih =>
    refine (ih (h.act action)).trans ?_
    rw [(h.act_acts kind action).log, changes, List.append_assoc]

/-- Only reading a watch yields something from it. -/
theorem item?_of_ne {h : Hub} {id : Nat} {action : HubAction} (unread : action ≠ .read id) :
    h.item? id action = none := by
  -- Only the reading of this watch yields an item of it.
  cases action with
  | read watch =>
    have differ : watch ≠ id := fun same => unread (same ▸ rfl)
    simp [item?, differ]
  | _ => rfl

/-- How a watch stands to the catalog: it has yielded no more than what it was opened with and what
was published since, and nothing is lost between the two while it is live. -/
structure Tracks (h : Hub) (id : Nat) (request : WatchRequest)
    (kept changes received : List Event) : Prop where
  known : id < h.nextWatch
  bounded : received <+: kept ++ request.select changes
  follows : ∀ w, h.watch? id = some w → w.request = request ∧
    (w.phase = .live → w.Follows (h.feed request.kind) kept changes received)

namespace Tracks

variable {h : Hub} {id : Nat} {request : WatchRequest} {kept changes received : List Event}

/-- What a watch yields is taken from what it owes. -/
theorem read (tracks : h.Tracks id request kept changes received) :
    (h.read id).2.Tracks id request kept changes (received ++ (h.read id).1.event?.toList) := by
  obtain ⟨known, bounded, follows⟩ := tracks
  obtain ⟨feeds, -, next⟩ := h.read_frame id
  cases there : h.watch? id with
  | none =>
    -- A watch that is not there yields its end.
    have item : (h.read id).1.event? = none := by simp [Hub.read, there, WatchItem.event?]
    refine ⟨by omega, by simpa [item] using bounded, fun w found => ?_⟩
    rw [watch?_read, if_pos rfl, there] at found
    cases found
  | some w =>
    obtain ⟨asked, follows⟩ := follows w there
    by_cases live : w.phase = .live
    · obtain ⟨w', after, reads⟩ := read_reads there live
      have follows := follows live
      rw [← asked] at follows bounded ⊢
      refine ⟨by omega, ?_, fun x found => ?_⟩
      · -- A watch that falls behind in the reading yields nothing in it.
        by_cases still : w'.phase = .live
        · rw [← reads.request]
          exact (reads.follows follows still).bounded
        · rw [reads.event?_of_lagged live still]
          simpa using bounded
      · obtain rfl := Option.some.inj (after.symm.trans found)
        refine ⟨reads.request, fun still => ?_⟩
        have same : (h.read id).2.feed w.request.kind = h.feed w.request.kind :=
          congrArg (·.get w.request.kind) feeds
        rw [same]
        exact reads.follows follows still
    · -- A watch that is no longer live has nothing to yield.
      obtain ⟨ended, same, dead⟩ := Watch.next_of_not_live live (h.feed w.request.kind) h.room
      rw [← read_item there] at ended
      refine ⟨by omega, by simpa [ended, WatchItem.event?] using bounded, fun x found => ?_⟩
      rw [watch?_read, if_pos rfl, there, Option.map_some] at found
      obtain rfl := Option.some.inj found
      exact ⟨same.trans asked, fun still => absurd still dead⟩

/-- Every action keeps to that. -/
theorem act (tracks : h.Tracks id request kept changes received) (action : HubAction) :
    (h.act action).Tracks id request kept (changes ++ (h.change? request.kind action).toList)
      (received ++ ((h.item? id action).bind WatchItem.event?).toList) := by
  -- The watch is read, or the log grows behind it.
  by_cases reads : action = .read id
  · subst reads
    simpa [Hub.act, change?, item?] using tracks.read
  · have acts := h.act_acts request.kind action
    have item := item?_of_ne (h := h) reads
    obtain ⟨known, bounded, follows⟩ := tracks
    rw [item, Option.bind_none, Option.toList_none, List.append_nil]
    refine ⟨Nat.lt_of_lt_of_le known acts.frame.2, ?_, fun w found => ?_⟩
    · rw [WatchRequest.select_append, ← List.append_assoc]
      exact bounded.trans (List.prefix_append _ _)
    · -- A watch that is closed is not there any more, and no other action touches it.
      by_cases closes : action = .close id
      · rw [closes, Hub.act, watch?_close, if_pos rfl] at found
        cases found
      · rw [acts.watch? known reads closes] at found
        obtain ⟨asked, follows⟩ := follows w found
        exact ⟨asked, fun live => (follows live).publish acts.log⟩

/-- All actions keep to that. -/
theorem after (tracks : h.Tracks id request kept changes received) (actions : List HubAction) :
    (h.after actions).Tracks id request kept (changes ++ h.changes request.kind actions)
      (received ++ (h.items id actions).filterMap WatchItem.event?) := by
  induction actions generalizing h changes received with
  | nil => simpa [Hub.after, Hub.changes, Hub.items] using tracks
  | cons action rest ih =>
    -- What the first action changes and yields comes before the rest.
    have later := ih (tracks.act action)
    have told : (h.item? id action).toList.filterMap WatchItem.event? =
        ((h.item? id action).bind WatchItem.event?).toList := by
      cases h.item? id action <;> rfl
    rw [Hub.changes, Hub.items, List.filterMap_append, told, ← List.append_assoc,
      ← List.append_assoc]
    exact later

/-- A watch that finds nothing more to read has yielded everything. -/
theorem settled (tracks : h.Tracks id request kept changes received)
    (idle : (h.read id).1 = .pending ∨ (h.read id).1 = .passed) :
    received = kept ++ request.select changes := by
  cases there : h.watch? id with
  | none => simp [Hub.read, there] at idle
  | some w =>
    obtain ⟨rfl, follows⟩ := tracks.follows w there
    by_cases live : w.phase = .live
    · -- What it has yielded and what it owes are everything, and it owes nothing.
      obtain ⟨w', -, reads⟩ := read_reads there live
      have balance := (follows live).balance
      rw [reads.settled idle, List.append_nil] at balance
      exact balance
    -- A watch that is no longer live ends, and is never told that nothing is there.
    · have ended := (Watch.next_of_not_live live (h.feed w.request.kind) h.room).1
      rw [read_item there] at idle
      simp [ended] at idle

end Tracks

/-- A watch that is opened is there under its number. -/
theorem Fresh.watch?_opened {h h' : Hub} (fresh : h.Fresh) {id : Nat} {request : WatchRequest}
    {credentials : Credentials} (opened : h.openWatch request credentials = .ok (id, h')) :
    h'.watch? id = some
      ⟨request, if request.noReplay then [] else (h.feed request.kind).replay request,
        (h.feed request.kind).log.size, .live⟩ := by
  -- No watch is there under the next number, so the new one is found under it.
  obtain ⟨rfl, rfl⟩ := openWatch_ok opened
  have missing := fresh h.nextWatch (Nat.le_refl _)
  rw [watch?] at missing
  rw [watch?, Lookup.append, missing, if_pos rfl, Option.none_or]

/-- A watch that has just been opened owes its replay. -/
theorem Fresh.tracks {h h' : Hub} (fresh : h.Fresh) {id : Nat} {request : WatchRequest}
    {credentials : Credentials} (opened : h.openWatch request credentials = .ok (id, h')) :
    h'.Tracks id request
      (if request.noReplay then [] else (h.feed request.kind).replay request) [] [] := by
  have there := fresh.watch?_opened opened
  obtain ⟨rfl, rfl⟩ := openWatch_ok opened
  refine ⟨Nat.lt_succ_self _, List.nil_prefix, fun w found => ?_⟩
  obtain rfl := Option.some.inj (there.symm.trans found)
  refine ⟨rfl, fun _ => ⟨rfl, fun bare => if_pos bare, List.nil_suffix, Nat.le_refl _,
    Nat.le_refl _, ?_⟩⟩
  -- Nothing is published behind the point where it opened.
  have past : (h.feed request.kind).log.toList.drop (h.feed request.kind).log.size = [] :=
    List.drop_eq_nil_of_le (by simp)
  show [] ++ (_ ++ request.select ((h.feed request.kind).log.toList.drop _)) = _ ++ []
  rw [past]
  simp

end Hub

end WatchRelay
