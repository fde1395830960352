import WatchRelay.Proofs.Catalog.Watching

/-! Slow watches: what is published and not yet read is kept for a watch up to a bound, and a watch
that falls behind further is told so once, in place of all that is left. -/

namespace WatchRelay

/-- Rounding up gives a power of two that is large enough, and no smaller one is. -/
theorem roundUpToPowerOfTwo_least (n : Nat) :
    (roundUpToPowerOfTwo n).isPowerOfTwo ∧ max n 1 ≤ roundUpToPowerOfTwo n ∧
      ∀ m, m.isPowerOfTwo → max n 1 ≤ m → roundUpToPowerOfTwo n ≤ m := by
  unfold roundUpToPowerOfTwo
  split
  · next small => exact ⟨⟨0, rfl⟩, by omega, fun m _ enough => by omega⟩
  · next large =>
    -- The number below lies between two powers, and the upper one is the power that is taken.
    have nonzero : n - 1 ≠ 0 := by omega
    have above : n - 1 < 2 ^ (Nat.log2 (n - 1) + 1) := Nat.lt_log2_self
    have below : 2 ^ Nat.log2 (n - 1) ≤ n - 1 := Nat.log2_self_le nonzero
    refine ⟨⟨_, rfl⟩, by simp only [Nat.pow_eq]; omega, ?_⟩
    rintro m ⟨k, rfl⟩ enough
    have further : Nat.log2 (n - 1) < k := by
      refine (Nat.pow_lt_pow_iff_right Nat.one_lt_two).mp ?_
      omega
    exact Nat.pow_le_pow_right Nat.two_pos further

namespace WatchRequest

/-- What is left of the unread events after an item: one that brings a published event has read past
that event and those out of scope before it, and one that brings nothing has read past them all. -/
def leave (r : WatchRequest) (unread : List Event) : WatchItem → List Event
  | .event e =>
    if e.change = .replayed then unread
    else (unread.dropWhile fun e => !r.inScope e.project).tail
  | .passed | .pending => []
  | .failure _ | .ended => unread

/-- An item only ever reads past the first of the unread events. -/
theorem leave_suffix (r : WatchRequest) (unread : List Event) (item : WatchItem) :
    r.leave unread item <:+ unread := by
  -- An event takes off what stands before it, and to have nothing takes off everything.
  cases item with
  | event e =>
    rw [leave]
    split
    · exact List.suffix_refl _
    · exact (List.tail_suffix _).trans (List.dropWhile_suffix _)
  | passed => exact List.nil_suffix
  | pending => exact List.nil_suffix
  | _ => exact List.suffix_refl _

end WatchRequest

namespace WatchItem

/-- Whether some item tells of a failure. -/
def Failed (items : List WatchItem) : Prop := ∃ failure, .failure failure ∈ items

/-- Whether items tell of no failure but that the watch fell behind, and only the end follows it. -/
def FailOnce (items : List WatchItem) : Prop :=
  ∀ before failure after, items = before ++ .failure failure :: after →
    (∃ n, failure = .lagged n) ∧ ∀ item ∈ after, item = .ended

variable {items : List WatchItem} {item : WatchItem}

/-- There was no failure before an item, nor is there one after it unless it is one. -/
theorem not_failed_concat (sound : ¬Failed items) (safe : ∀ failure, item ≠ .failure failure) :
    ¬Failed (items ++ [item]) := by
  -- The new item is no failure, so there would have been one before.
  rintro ⟨failure, told⟩
  rw [List.mem_append, List.mem_singleton] at told
  exact told.elim (fun before => sound ⟨failure, before⟩) fun same => safe failure same.symm

/-- An item is added that is the end if there was a failure, and tells of no failure other than that
the watch fell behind. -/
theorem FailOnce.concat (once : FailOnce items) (ends : Failed items → item = .ended)
    (lagged : ∀ failure, item = .failure failure → ∃ n, failure = .lagged n) :
    FailOnce (items ++ [item]) := by
  intro before failure after whole
  rcases List.eq_nil_or_concat after with rfl | ⟨rest, last, rfl⟩
  · -- The failure is the new item.
    obtain ⟨-, same⟩ := List.append_inj' whole rfl
    exact ⟨lagged failure (by simpa using same), by simp⟩
  · -- The failure was there before, so the new item is the end.
    rw [List.concat_eq_append, ← List.cons_append, ← List.append_assoc] at whole
    obtain ⟨earlier, same⟩ := List.append_inj' whole rfl
    obtain rfl : item = last := by simpa using same
    obtain ⟨which, ended⟩ := once before failure rest earlier
    refine ⟨which, fun other member => ?_⟩
    rw [List.concat_eq_append, List.mem_append, List.mem_singleton] at member
    rcases member with member | rfl
    · exact ended other member
    · exact ends ⟨failure, by simp [earlier]⟩

end WatchItem

namespace Feed

/-- What is behind an event that is found next is what follows the events out of scope and it. -/
theorem drop_nextInScope {f : Feed} {request : WatchRequest} {position behind : Nat} {event : Event}
    (found : f.nextInScope request position = some (event, behind)) :
    f.log.toList.drop behind =
      ((f.log.toList.drop position).dropWhile fun e => !request.inScope e.project).tail := by
  -- The search goes on behind each event out of scope, and the dropping with it.
  induction position using nextInScope.induct f request with
  | case1 position inside covered =>
    rw [nextInScope, dif_pos inside, if_pos covered] at found
    cases found
    rw [List.drop_eq_getElem_cons (i := position) (by simpa using inside),
      List.dropWhile_cons_of_neg]
    · rfl
    · simpa using covered
  | case2 position inside foreign ih =>
    rw [nextInScope, dif_pos inside, if_neg foreign] at found
    rw [ih found, List.drop_eq_getElem_cons (i := position) (by simpa using inside),
      List.dropWhile_cons_of_pos]
    simpa using foreign
  | case3 position outside =>
    rw [nextInScope, dif_neg outside] at found
    cases found

end Feed

namespace Watch

/-- How a watch stands to what has been read from it: until it has told of a failure it is live, the
rest of its replay is left, and the unread events are those behind its position. -/
structure Trails (w : Watch) (f : Feed) (kept : List Event) (items : List WatchItem)
    (unread : List Event) : Prop where
  live : w.phase = .live ↔ ¬WatchItem.Failed items
  once : WatchItem.FailOnce items
  replay : w.phase = .live → w.replay = kept.drop items.length
  rest : w.phase = .live → f.log.toList.drop w.position = unread
  within : w.position ≤ f.log.size

/-- What is left of the replay of a watch. -/
def left (w : Watch) : List Event := if w.phase = .live then w.replay else []

section

variable {w w' : Watch} {f f' : Feed} {room : Nat} {item : WatchItem} {kept : List Event}
  {items : List WatchItem} {unread : List Event}

/-- So many events are unread as were published behind the position of a live watch. -/
theorem Trails.length (trails : w.Trails f kept items unread) (live : w.phase = .live) :
    unread.length = f.log.size - w.position := by
  rw [← trails.rest live, List.length_drop, Array.length_toList]

/-- What is published is unread. -/
theorem Trails.publish {more : List Event} (trails : w.Trails f kept items unread)
    (grown : f'.log.toList = f.log.toList ++ more) : w.Trails f' kept items (unread ++ more) := by
  -- What is published is unread behind what was so before.
  obtain ⟨live, once, replay, rest, within⟩ := trails
  refine ⟨live, once, replay, fun still => ?_, ?_⟩
  · rw [grown, List.drop_append_of_le_length (by simpa using within), rest still]
  · rw [← Array.length_toList, grown, List.length_append, Array.length_toList]
    exact Nat.le_add_right_of_le within

/-- Reading from a live watch takes the next of its replay, or reads past what is unread. -/
theorem Reads.trails (reads : w.Reads f room item w') (trails : w.Trails f kept items unread)
    (live : w.phase = .live) (replayed : ∀ e ∈ kept, e.change = .replayed)
    (published : ∀ e ∈ f.log.toList, e.change ≠ .replayed) :
    w'.Trails f kept (items ++ [item]) (w.request.leave unread item) := by
  obtain ⟨alive, once, replay, rest, within⟩ := trails
  have sound := alive.mp live
  have whole := replay live
  have behind := rest live
  -- A failure is told only by a watch that has fallen behind.
  have once : WatchItem.FailOnce (items ++ [item]) := by
    refine once.concat (fun failed => absurd failed sound) fun failure told => ?_
    cases reads with
    | idle _ _ _ which => rcases which with rfl | rfl <;> cases told
    | lagged _ _ => exact ⟨_, (WatchItem.failure.inj told).symm⟩
    | _ => cases told
  -- A replay that is used up stays so.
  have done (none : w.replay = []) : w.replay = kept.drop (items ++ [item]).length := by
    rw [List.length_append, ← List.drop_drop, ← whole, none]
    rfl
  cases reads with
  | @replayed event others first =>
    rw [first] at whole
    have member : event ∈ kept := List.mem_of_mem_drop (whole ▸ List.mem_cons_self)
    refine ⟨iff_of_true live (WatchItem.not_failed_concat sound (by simp)), once, fun _ => ?_,
      fun _ => ?_, within⟩
    · rw [List.length_append, ← List.drop_drop, ← whole]
      rfl
    · rw [WatchRequest.leave, if_pos (replayed event member)]
      exact behind
  | @published event position none near found =>
    obtain ⟨-, inside, next⟩ := Feed.nextInScope_some found
    have member : event ∈ f.log.toList :=
      List.mem_of_mem_drop (List.mem_filter.mp (next ▸ List.mem_cons_self)).1
    refine ⟨iff_of_true live (WatchItem.not_failed_concat sound (by simp)), once,
      fun _ => done none, fun _ => ?_, inside⟩
    rw [WatchRequest.leave, if_neg (published event member), ← behind]
    exact Feed.drop_nextInScope found
  | idle none near missing which =>
    refine ⟨iff_of_true live (WatchItem.not_failed_concat sound ?_), once, fun _ => done none,
      fun _ => ?_, Nat.le_refl _⟩
    · rcases which with rfl | rfl <;> simp
    · have all : w.request.leave unread item = [] := by rcases which with rfl | rfl <;> rfl
      rw [all]
      exact List.drop_eq_nil_of_le (by simp)
  | lagged none far =>
    refine ⟨iff_of_false (by simp)
      (not_not_intro ⟨_, List.mem_append_right _ List.mem_cons_self⟩),
      once, by simp, by simp, within⟩

/-- A watch that is no longer live yields its end, whatever is unread. -/
theorem Trails.ended (trails : w.Trails f kept items unread) (dead : w.phase ≠ .live)
    (others : List Event) :
    (w.next f room).2.Trails f kept (items ++ [(w.next f room).1]) others := by
  obtain ⟨ended, -, still⟩ := Watch.next_of_not_live dead f room
  have position : (w.next f room).2.position = w.position := by
    unfold next
    split
    · rfl
    · rfl
    · next live => exact absurd live dead
  -- A watch is no longer live only once it has told of a failure.
  have failed : WatchItem.Failed items :=
    Classical.byContradiction fun sound => dead (trails.live.mpr sound)
  obtain ⟨failure, told⟩ := failed
  rw [ended]
  refine ⟨iff_of_false still (not_not_intro ⟨failure, List.mem_append_left _ told⟩), ?_,
    fun live => absurd live still, fun live => absurd live still, position ▸ trails.within⟩
  exact trails.once.concat (fun _ => rfl) (by simp)

/-- What a live watch yields next, once its replay is used up, is decided by what is unread. -/
theorem Reads.yields (reads : w.Reads f room item w') (trails : w.Trails f kept items unread)
    (live : w.phase = .live) :
    (∀ e, kept[items.length]? = some e → item = .event e) ∧
    (kept.length ≤ items.length →
      (room < unread.length → item = .failure (.lagged (unread.length - room))) ∧
      (unread.length ≤ room →
        (∀ e, (w.request.select unread).head? = some e → item = .event e) ∧
        (w.request.select unread = [] → item = .pending ∨ item = .passed))) := by
  have length := trails.length live
  have rest := trails.rest live
  have replay := trails.replay live
  -- The replay is used up when nothing of it is left.
  have first (e : Event) : kept[items.length]? = some e ↔ w.replay.head? = some e := by
    rw [replay, List.head?_drop]
  have used : kept.length ≤ items.length ↔ w.replay = [] := by
    rw [replay, List.drop_eq_nil_iff]
  simp only [first, used, length]
  rw [← rest]
  cases reads with
  | replayed some =>
    rw [some]
    simp
  | published none near found =>
    obtain ⟨-, -, next⟩ := Feed.nextInScope_some found
    rw [none, next]
    simp [Nat.not_lt.mpr near]
  | idle none near missing which =>
    rw [none, Feed.nextInScope_none missing]
    simp [Nat.not_lt.mpr near, which]
  | lagged none far =>
    rw [none]
    simp [far, Nat.not_le.mpr far]

/-- A watch that has fallen behind too far, or is no longer live, yields what is left of its replay
and no other event. -/
theorem next_far (far : w.phase = .live → room < f.log.size - w.position) :
    (w.next f room).1.event?.toList ++ (w.next f room).2.left = w.left ∧
      (w.next f room).2.position = w.position ∧ (w.next f room).2.request = w.request ∧
      ((w.next f room).2.phase = .live → w.phase = .live) := by
  -- A watch too far behind tells so before it reads on, and keeps what it has left.
  obtain ⟨request, replay, position, phase⟩ := w
  cases phase with
  | live =>
    cases replay with
    | nil => simp [next, left, far rfl, WatchItem.event?]
    | cons event rest => simp [next, left, WatchItem.event?]
  | _ => simp [next, left, WatchItem.event?]

end

end Watch

namespace Hub

/-- What is unread by a watch after actions: what is published about its kind, less what its items
have read past. -/
def unread (request : WatchRequest) (watch : Nat) :
    Hub → List Event → List HubAction → List Event
  | _, unread, [] => unread
  | h, unread, action :: rest =>
    let left := (h.item? watch action).elim unread (request.leave unread)
    Hub.unread request watch (h.act action) (left ++ (h.change? request.kind action).toList) rest

/-- What is unread is the last of what is published. -/
theorem unread_suffix (request : WatchRequest) (watch : Nat) {h : Hub} {unread changes : List Event}
    (last : unread <:+ changes) (actions : List HubAction) :
    h.unread request watch unread actions <:+ changes ++ h.changes request.kind actions := by
  -- Reading takes from the front, and what is published is put behind.
  induction actions generalizing h unread changes with
  | nil => simpa [Hub.unread, Hub.changes] using last
  | cons action rest ih =>
    have left : (h.item? watch action).elim unread (request.leave unread) <:+ changes := by
      cases h.item? watch action with
      | none => exact last
      | some item => exact (request.leave_suffix unread item).trans last
    rw [Hub.unread, Hub.changes, ← List.append_assoc]
    apply ih
    obtain ⟨front, rfl⟩ := left
    exact ⟨front, (List.append_assoc ..).symm⟩

/-- How a watch that is not closed stands to the catalog. -/
structure Trails (h : Hub) (id : Nat) (request : WatchRequest) (kept : List Event)
    (items : List WatchItem) (unread : List Event) : Prop where
  known : id < h.nextWatch
  replayed : ∀ e ∈ kept, e.change = .replayed
  published : ∀ e ∈ (h.feed request.kind).log.toList, e.change ≠ .replayed
  watch : ∃ w, h.watch? id = some w ∧ w.request = request ∧
    w.Trails (h.feed request.kind) kept items unread

namespace Trails

variable {h : Hub} {id : Nat} {request : WatchRequest} {kept : List Event}
  {items : List WatchItem} {unread : List Event}

/-- A reading is one more item, and leaves unread what it has not read past. -/
theorem read (trails : h.Trails id request kept items unread) :
    (h.read id).2.Trails id request kept (items ++ [(h.read id).1])
      (request.leave unread (h.read id).1) := by
  obtain ⟨known, replayed, published, w, there, rfl, trails⟩ := trails
  obtain ⟨feeds, -, next⟩ := h.read_frame id
  have same : (h.read id).2.feed w.request.kind = h.feed w.request.kind :=
    congrArg (·.get w.request.kind) feeds
  refine ⟨next ▸ known, replayed, same ▸ published, ?_⟩
  rw [same]
  -- A watch that is live reads from what it has left. One that has ended stays where it is.
  by_cases live : w.phase = .live
  · obtain ⟨w', after, reads⟩ := read_reads there live
    exact ⟨w', after, reads.request, reads.trails trails live replayed published⟩
  · refine ⟨_, ?_, (Watch.next_of_not_live live (h.feed w.request.kind) h.room).2.1, ?_⟩
    · rw [watch?_read, if_pos rfl, there, Option.map_some]
    · rw [read_item there]
      exact trails.ended live _

/-- Every action but its closing keeps to that. -/
theorem act (trails : h.Trails id request kept items unread) {action : HubAction}
    (unclosed : action ≠ .close id) :
    (h.act action).Trails id request kept (items ++ (h.item? id action).toList)
      ((h.item? id action).elim unread (request.leave unread) ++
        (h.change? request.kind action).toList) := by
  -- The watch is read, or the action publishes behind what is left.
  by_cases reads : action = .read id
  · subst reads
    simpa [Hub.act, change?, item?] using trails.read
  · have acts := h.act_acts request.kind action
    obtain ⟨known, replayed, published, w, there, asked, trails⟩ := trails
    rw [item?_of_ne reads]
    refine ⟨Nat.lt_of_lt_of_le known acts.frame.2, replayed, fun e member => ?_, w,
      (acts.watch? known reads unclosed).trans there, asked, ?_⟩
    · -- What the action publishes is no replay.
      rw [acts.log, List.mem_append, Option.mem_toList] at member
      exact member.elim (published e) acts.ne_replayed
    · simpa using trails.publish acts.log

/-- All actions keep to that, as long as the watch is not closed. -/
theorem after (trails : h.Trails id request kept items unread) (actions : List HubAction)
    (unclosed : .close id ∉ actions) :
    (h.after actions).Trails id request kept (items ++ h.items id actions)
      (h.unread request id unread actions) := by
  -- Item by item, and change by change, the trail is kept.
  induction actions generalizing h items unread with
  | nil => simpa [Hub.after, Hub.items, Hub.unread] using trails
  | cons action rest ih =>
    obtain ⟨first, later⟩ := not_or.mp (mt List.mem_cons.mpr unclosed)
    rw [Hub.items, ← List.append_assoc]
    exact ih (trails.act (Ne.symm first)) later

end Trails

/-- A watch that has just been opened has read nothing, and nothing is unread. -/
theorem Fresh.trails {h h' : Hub} (fresh : h.Fresh) {id : Nat} {request : WatchRequest}
    {credentials : Credentials} (opened : h.openWatch request credentials = .ok (id, h'))
    (published : ∀ e ∈ (h.feed request.kind).log.toList, e.change ≠ .replayed) :
    h'.Trails id request
      (if request.noReplay then [] else (h.feed request.kind).replay request) [] [] := by
  have there := fresh.watch?_opened opened
  obtain ⟨rfl, rfl⟩ := openWatch_ok opened
  refine ⟨Nat.lt_succ_self _, fun e member => ?_, published, _, there, rfl,
    iff_of_true rfl (by simp [WatchItem.Failed]), by simp [WatchItem.FailOnce], fun _ => rfl,
    fun _ => List.drop_eq_nil_of_le (by simp [feed]), Nat.le_refl _⟩
  -- What is replayed is told as replayed.
  split at member
  · cases member
  · obtain ⟨entry, -, rfl⟩ := List.mem_map.mp member
    rfl

/-- Nothing that actions publish is a replay. -/
theorem changes_ne_replayed (h : Hub) (kind : ResourceKind) (actions : List HubAction) :
    ∀ e ∈ h.changes kind actions, e.change ≠ .replayed := by
  -- A replay is made in the opening of a watch, and never in the log.
  induction actions generalizing h with
  | nil => simp [changes]
  | cons action rest ih =>
    intro e member
    rw [changes, List.mem_append, Option.mem_toList] at member
    exact member.elim (h.act_acts kind action).ne_replayed (ih _ e)

/-- A watch that has fallen behind too far, or is no longer live, never yields another event than
those left of its replay. -/
theorem items_far {h : Hub} {id : Nat} {w : Watch} (known : id < h.nextWatch)
    (there : h.watch? id = some w)
    (far : w.phase = .live → h.room < (h.feed w.request.kind).log.size - w.position)
    (actions : List HubAction) (unclosed : .close id ∉ actions) :
    (h.items id actions).filterMap WatchItem.event? <+: w.left := by
  induction actions generalizing h w with
  | nil => exact List.nil_prefix
  | cons action rest ih =>
    obtain ⟨first, later⟩ := not_or.mp (mt List.mem_cons.mpr unclosed)
    have acts := h.act_acts w.request.kind action
    have known' := Nat.lt_of_lt_of_le known acts.frame.2
    -- What is unread only grows as long as the watch does not read past it.
    have farther (live : w.phase = .live) : (h.act action).room <
        ((h.act action).feed w.request.kind).log.size - w.position := by
      have far := far live
      rw [acts.frame.1, ← Array.length_toList, acts.log, List.length_append, Array.length_toList]
      omega
    by_cases reads : action = .read id
    · subst reads
      -- Its read yields what is left of the replay, and moves nothing else.
      obtain ⟨yields, position, request, alive⟩ := Watch.next_far far
      rw [← request, ← position] at farther
      have found : (h.act (.read id)).watch? id =
          some (w.next (h.feed w.request.kind) h.room).2 := by
        rw [Hub.act, watch?_read, if_pos rfl, there, Option.map_some]
      have item : h.item? id (.read id) = some (w.next (h.feed w.request.kind) h.room).1 := by
        rw [item?, if_pos rfl, read_item there]
      have told : (h.item? id (.read id)).toList.filterMap WatchItem.event? =
          (w.next (h.feed w.request.kind) h.room).1.event?.toList := by
        rw [item]
        cases (w.next (h.feed w.request.kind) h.room).1 <;> rfl
      rw [items, List.filterMap_append, told, ← yields]
      exact (List.prefix_append_right_inj _).mpr
        (ih known' found (fun live => farther (alive live)) later)
    -- Another action lets it stand where it is.
    · rw [items, item?_of_ne reads]
      exact ih known' ((acts.watch? known reads (Ne.symm first)).trans there) farther later

/-- A watch that reads slowly is never left without an event in silence.

A feed keeps as many unread events as the least power of two that is no smaller than its capacity.
It keeps one at least.

Until a watch has told of a failure, nothing is lost to it.
What it has yielded, the rest of its replay and the unread events in its scope are all there was.

The replay comes first.
Then the watch yields the first unread event in scope as long as all that is unread is kept.
Where it is not, the watch tells by how much it fell behind.

It tells so once, and only its end follows.
Once it has fallen behind, nothing but the rest of its replay is yielded any more. -/
theorem slow_watch_is_told (capacity : Nat) (requireToken : Bool) (before later : List HubAction)
    (request : WatchRequest) (credentials : Credentials) (watch : Nat) (opened : Hub)
    (opens : ((empty capacity requireToken).after before).openWatch request credentials =
      .ok (watch, opened)) (unclosed : .close watch ∉ later) :
    let room := roundUpToPowerOfTwo capacity
    let stored := ((empty capacity requireToken).after before).feed request.kind
    let kept := if request.noReplay then [] else stored.replay request
    let changes := opened.changes request.kind later
    let items := opened.items watch later
    let received := items.filterMap WatchItem.event?
    let unread := opened.unread request watch [] later
    let next := ((opened.after later).read watch).1
    (room.isPowerOfTwo ∧ max capacity 1 ≤ room ∧
      ∀ n, n.isPowerOfTwo → max capacity 1 ≤ n → room ≤ n) ∧
    unread <:+ changes ∧
    (¬WatchItem.Failed items →
      received ++ (kept.drop items.length ++ request.select unread) =
        kept ++ request.select changes ∧
      (∀ e, kept[items.length]? = some e → next = .event e) ∧
      (kept.length ≤ items.length →
        (room < unread.length → next = .failure (.lagged (unread.length - room))) ∧
        (unread.length ≤ room →
          (∀ e, (request.select unread).head? = some e → next = .event e) ∧
          (request.select unread = [] → next = .pending ∨ next = .passed)))) ∧
    WatchItem.FailOnce items ∧
    (WatchItem.Failed items → next = .ended) ∧
    received <+: kept ++ request.select changes ∧
    (room < unread.length → ∀ more, .close watch ∉ more →
      ((opened.after later).items watch more).filterMap WatchItem.event? <+:
        kept.drop items.length) := by
  intro room stored kept changes items received unread next
  have fresh : ((empty capacity requireToken).after before).Fresh :=
    (after_frame _ before).2.2 fun _ _ => rfl
  -- No event is published as replayed, so the items tell replay and published events apart.
  have published : ∀ e ∈ stored.log.toList, e.change ≠ .replayed := by
    have all := (empty capacity requireToken).after_log request.kind before
    rw [feed_empty] at all
    intro e member
    exact changes_ne_replayed _ _ before e (all ▸ member)
  have last : unread <:+ changes := unread_suffix request watch (List.suffix_refl []) later
  have tracks := (fresh.tracks opens).after later
  have trails := (fresh.trails opens published).after later unclosed
  rw [List.nil_append] at trails
  obtain ⟨known, -, -, w, there, rfl, trails⟩ := trails
  have width : (opened.after later).room = room := by
    obtain ⟨-, rfl⟩ := openWatch_ok opens
    exact (after_frame _ later).1.trans (after_frame _ before).1
  refine ⟨roundUpToPowerOfTwo_least capacity, last, fun sound => ⟨?_, ?_⟩, trails.once,
    fun failed => ?_, tracks.bounded, fun far more unclosed => ?_⟩
  · -- What is owed is the rest of the replay and what is unread in scope.
    have live := trails.live.mpr sound
    have balance := ((tracks.follows w there).2 live).balance
    rw [Watch.owed, trails.replay live, trails.rest live] at balance
    exact balance
  -- What the next read yields follows from what is left and what is unread.
  · have live := trails.live.mpr sound
    obtain ⟨_, -, reads⟩ := read_reads there live
    rw [width] at reads
    exact reads.yields trails live
  -- After its failure the watch yields its end.
  · have dead : w.phase ≠ .live := fun live => trails.live.mp live failed
    rw [← (Watch.next_of_not_live dead _ _).1]
    exact read_item there
  · -- Nothing but the rest of the replay is left of a live watch, and nothing of another.
    refine (items_far known there (fun live => ?_) more unclosed).trans ?_
    · rw [width, ← trails.length live]
      exact far
    · unfold Watch.left
      split
      · next live => exact trails.replay live ▸ List.prefix_refl _
      · exact List.nil_prefix

/-- It holds of a watch that falls behind by one event where four are kept, events out of its scope
among them. -/
theorem slow_watch_is_told_lagging :
    let named (name : String) : Json := .object [("name", .string name)]
    let before : List HubAction := [.upsert .application "p" (named "a")]
    let later : List HubAction :=
      [.upsert .application "p" (named "b"), .read 0, .upsert .application "q" (named "c"), .read 0,
        .upsert .application "p" (named "d"), .upsert .application "q" (named "e"),
        .upsert .artifact "p" (named "f"), .remove .application "p" "a",
        .upsert .application "p" (named "b")]
    let request : WatchRequest := ⟨.application, "p", false⟩
    ∃ opened, ((empty 3 false).after before).openWatch request default = .ok (0, opened) ∧
      .close 0 ∉ later ∧
      ((opened.after later).read 0).1 = .failure (.lagged 1) ∧
      ∀ more, .close 0 ∉ more →
        ((opened.after later).items 0 more).filterMap WatchItem.event? = [] := by
  intro named before later request
  have opens : ∃ opened, ((empty 3 false).after before).openWatch request default =
      .ok (0, opened) ∧ opened.items 0 later = [.event ⟨.replayed, "p", named "a"⟩,
        .event ⟨.created, "p", named "b"⟩] ∧
      (opened.unread request 0 [] later).length = 5 ∧
      (((empty 3 false).after before).feed .application).replay request =
        [⟨.replayed, "p", named "a"⟩] := ⟨_, rfl, by decide +kernel⟩
  obtain ⟨opened, opens, items, unread, replay⟩ := opens
  have unclosed : .close 0 ∉ later := by simp [later]
  obtain ⟨-, -, sound, -, -, -, far⟩ :=
    slow_watch_is_told 3 false before later request default 0 opened opens unclosed
  have kept : (if request.noReplay then []
      else (((empty 3 false).after before).feed request.kind).replay request) =
        [⟨.replayed, "p", named "a"⟩] := replay
  rw [items, unread, kept] at sound far
  -- Five events are unread where four are kept.
  have room : roundUpToPowerOfTwo 3 = 4 := by decide
  rw [room] at sound far
  obtain ⟨-, -, used⟩ := sound (by simp [WatchItem.Failed])
  refine ⟨opened, opens, unclosed, (used (by simp)).1 (by decide), fun more unclosed => ?_⟩
  exact List.prefix_nil.mp (far (by decide) more unclosed)

end Hub

end WatchRelay
