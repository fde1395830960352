import Mathlib.Data.List.Induction
import WatchRelay.Proofs.Catalog.Watching

/-! The streams of a catalog: which of those that were opened are still open, and their number. -/

namespace WatchRelay

namespace Watch

/-- Reading changes nothing about what a watch is asked for. -/
theorem next_request (w : Watch) (f : Feed) (room : Nat) :
    (w.next f room).2.request = w.request := by
  -- A live read keeps the request with its record, any other read changes the phase alone.
  by_cases live : w.phase = .live
  · exact (next_reads live f room).request
  · exact (next_of_not_live live f room).2.1

/-- A reading ends a watch if it yields the end, and no other reading does. -/
theorem next_isOpen (w : Watch) (f : Feed) (room : Nat) :
    (w.next f room).2.isOpen = true ↔ w.isOpen = true ∧ (w.next f room).1 ≠ .ended := by
  by_cases live : w.phase = .live
  · -- A live watch yields no end, and is live or behind after it.
    have before : w.isOpen = true := by simp [isOpen, live]
    rw [iff_true_intro before, true_and]
    have reads := next_reads live f room
    generalize w.next f room = result at reads
    obtain ⟨item, w'⟩ := result
    cases reads with
    | replayed _ => simp [isOpen, live]
    | published _ _ _ => simp [isOpen, live]
    | idle _ _ _ which => rcases which with rfl | rfl <;> simp [isOpen, live]
    | lagged _ _ => simp [isOpen]
  · -- Another one yields its end, and that ends it.
    have ended := (next_of_not_live live f room).1
    refine iff_of_false ?_ fun both => both.2 ended
    unfold next
    split
    · next gone => simp [isOpen, gone]
    · simp [isOpen]
    · next alive => exact absurd alive live

end Watch

/-- Whether an action opens a watch of a kind under a number. -/
def HubAction.Opens (h : Hub) (kind : ResourceKind) (id : Nat) (action : HubAction) : Prop :=
  ∃ request credentials opened, action = .openWatch request credentials ∧
    request.kind = kind ∧
    h.openWatch request credentials = .ok (id, opened)

namespace Hub

variable {h : Hub} {kind : ResourceKind} {id : Nat}

/-- A stream of a kind that some action opened, and that since then was neither dropped nor read to
its end. -/
def IsStream (h : Hub) (kind : ResourceKind) (actions : List HubAction) (id : Nat) : Prop :=
  ∃ before action later, actions = before ++ action :: later ∧
    action.Opens (h.after before) kind id ∧ .close id ∉ later ∧
    .ended ∉ (h.after (before ++ [action])).items id later

/-- Before anything is done there is no stream. -/
theorem not_isStream_nil : ¬h.IsStream kind [] id := by
  rintro ⟨before, action, later, whole, -⟩
  simp at whole

/-- After one action more, the streams are the one it opens and those it neither drops nor reads to
their end. -/
theorem isStream_concat (past : List HubAction) (action : HubAction) :
    h.IsStream kind (past ++ [action]) id ↔ action.Opens (h.after past) kind id ∨
      h.IsStream kind past id ∧ action ≠ .close id ∧
        (h.after past).item? id action ≠ some .ended := by
  -- What the last action yields is the last of all items.
  have items (before rest : List HubAction) (first : HubAction) :
      (h.after (before ++ [first])).items id (rest ++ [action]) =
        (h.after (before ++ [first])).items id rest ++
          ((h.after (before ++ first :: rest)).item? id action).toList := by
    rw [items_append, ← after_append, List.append_assoc, List.singleton_append]
    exact congrArg _ (List.append_nil _)
  constructor
  · rintro ⟨before, first, later, whole, opens, unclosed, unended⟩
    rcases List.eq_nil_or_concat later with rfl | ⟨rest, last, rfl⟩
    · -- The last action is the one that opens the stream.
      obtain ⟨rfl, same⟩ := List.append_inj' whole rfl
      obtain rfl : action = first := by simpa using same
      exact .inl opens
    · -- Otherwise the stream was there before the last action, which leaves it open.
      rw [List.concat_eq_append] at whole unclosed unended
      rw [← List.cons_append, ← List.append_assoc] at whole
      obtain ⟨rfl, same⟩ := List.append_inj' whole rfl
      obtain rfl : action = last := by simpa using same
      rw [List.mem_append, not_or, List.mem_singleton] at unclosed
      rw [items, List.mem_append, not_or, Option.mem_toList] at unended
      exact .inr ⟨⟨before, first, rest, rfl, opens, unclosed.1, unended.1⟩,
        Ne.symm unclosed.2, unended.2⟩
  · rintro (opens | ⟨⟨before, first, later, rfl, opens, unclosed, unended⟩, spared,
      unread⟩)
    · exact ⟨past, action, [], rfl, opens, List.not_mem_nil, List.not_mem_nil⟩
    -- The last action neither closes nor ends it.
    · refine ⟨before, first, later ++ [action], by simp, opens, ?_, ?_⟩
      · rw [List.mem_append, not_or, List.mem_singleton]
        exact ⟨unclosed, Ne.symm spared⟩
      · rw [items, List.mem_append, not_or, Option.mem_toList]
        exact ⟨unended, unread⟩

/-- Whether a watch counts as one of a kind. -/
def Counts (h : Hub) (kind : ResourceKind) (id : Nat) : Prop :=
  ∃ w, h.watch? id = some w ∧ w.isOpen = true ∧ w.request.kind = kind

/-- A reading takes the watch off the count whose end it yields, and no other. -/
theorem counts_read (watch : Nat) : (h.read watch).2.Counts kind id ↔
    h.Counts kind id ∧ h.item? id (.read watch) ≠ some .ended := by
  -- Only a read of this very watch can end it, any other action leaves it as it is.
  by_cases same : id = watch
  · subst same
    cases there : h.watch? id with
    | none => simp [Counts, watch?_read, there]
    | some w =>
      simp only [Counts, watch?_read, there, item?, read_item there, if_true, Option.map_some,
        Option.some.injEq, exists_eq_left', Watch.next_isOpen, Watch.next_request, ne_eq]
      exact and_right_comm
  · have other : h.item? id (.read watch) = none :=
      item?_of_ne fun equal => same (HubAction.read.inj equal).symm
    simp [Counts, watch?_read, same, other]

/-- An action counts the watch it opens, and takes off the count the one it drops or reads to its
end. -/
theorem Fresh.counts_act (fresh : h.Fresh) (action : HubAction) :
    (h.act action).Counts kind id ↔ action.Opens h kind id ∨
      h.Counts kind id ∧ action ≠ .close id ∧ h.item? id action ≠ some .ended := by
  -- An action that leaves all watches as they are neither opens nor ends one.
  have spares (still : (h.act action).watches = h.watches) (opens : ¬action.Opens h kind id)
      (other : action ≠ .close id) (unread : h.item? id action = none) :
      (h.act action).Counts kind id ↔ action.Opens h kind id ∨
        h.Counts kind id ∧ action ≠ .close id ∧ h.item? id action ≠ some .ended := by
    have same : (h.act action).Counts kind id ↔ h.Counts kind id := by
      simp only [Counts, Hub.watch?, still]
    simp [same, opens, other, unread]
  cases action with
  -- Changes of the store touch the feed, not the watches.
  | upsert k project resource =>
    refine spares ?_ (by simp [HubAction.Opens]) (by simp) rfl
    simp only [act, Hub.upsert]
    cases (h.feed k).upsert project resource <;> rfl
  | remove k project name =>
    refine spares ?_ (by simp [HubAction.Opens]) (by simp) rfl
    simp only [act, Hub.remove]
    cases (h.feed k).remove k project name <;> rfl
  | openWatch request credentials =>
    cases opened : h.openWatch request credentials with
    | error failure =>
      refine spares ?_ (by simp [HubAction.Opens, opened]) (by simp) rfl
      simp only [act, opened]
    | ok result =>
      -- The new watch has a number that nothing had before.
      obtain ⟨number, h'⟩ := result
      obtain ⟨rfl, whole⟩ := openWatch_ok opened
      have after : h.act (.openWatch request credentials) = h' := by simp only [act, opened]
      have opens : HubAction.Opens h kind id (.openWatch request credentials) ↔
          id = h.nextWatch ∧ request.kind = kind := by
        simp [HubAction.Opens, opened, and_comm, eq_comm]
      rw [after, opens]
      by_cases new : id = h.nextWatch
      · subst new
        have before : ¬h.Counts kind h.nextWatch := by
          simp [Counts, fresh h.nextWatch (Nat.le_refl _)]
        rw [Counts, fresh.watch?_opened opened]
        simp [before, Watch.isOpen]
      · have others : h'.watch? id = h.watch? id := by
          rw [whole, Hub.watch?, Lookup.append, if_neg new, Option.or_none, Hub.watch?]
        simp [Counts, others, new, item?]
  | read watch =>
    rw [act, counts_read]
    simp [HubAction.Opens]
  | close watch =>
    -- The closed watch goes, the others stay.
    by_cases same : id = watch
    · simp [Counts, act, watch?_close, HubAction.Opens, same]
    · have apart : ¬watch = id := fun equal => same equal.symm
      simp [Counts, act, watch?_close, HubAction.Opens, same, apart, item?]

/-- No two watches have one number. -/
def Distinct (h : Hub) : Prop := (h.watches.map (·.1)).Nodup

/-- No action gives a number twice. -/
theorem Acts.distinct {h' : Hub} {action : HubAction} {change : Option Event}
    (acts : h.Acts kind action change h') (fresh : h.Fresh) (distinct : h.Distinct) :
    h'.Distinct := by
  cases acts with
  | opened opened =>
    obtain ⟨-, rfl⟩ := openWatch_ok opened
    have missing := fresh h.nextWatch (Nat.le_refl _)
    rw [Hub.watch?, List.lookup_eq_none_iff] at missing
    -- The number of the new watch was not given before.
    have unknown : ∀ number ∈ h.watches.map (·.1), number ≠ h.nextWatch := by
      rintro number member rfl
      obtain ⟨p, there, same⟩ := List.mem_map.mp member
      simpa [same] using missing p there
    rw [Distinct, List.map_append, List.nodup_append]
    exact ⟨distinct, by simp, by simpa using unknown⟩
  | read watch =>
    -- A watch that is read keeps its number.
    have same : (h.read watch).2.watches.map (·.1) = h.watches.map (·.1) := by
      unfold Hub.read
      split
      · rfl
      · next w there =>
        refine (List.map_map ..).trans (List.map_congr_left fun p _ => ?_)
        by_cases own : p.1 = watch <;> simp [own]
    rw [Distinct, same]
    exact distinct
  | closed watch => exact distinct.sublist (List.filter_sublist.map _)
  | _ => exact distinct

/-- No number is given twice by actions. -/
theorem Fresh.distinct_after (fresh : h.Fresh) (distinct : h.Distinct) (actions : List HubAction) :
    (h.after actions).Distinct := by
  -- Numbers are fresh before every action, so a watch that opens shares none.
  induction actions generalizing h with
  | nil => exact distinct
  | cons action rest ih =>
    have acts := h.act_acts .registry action
    exact ih (acts.fresh fresh) (acts.distinct fresh distinct)

/-- The watches that count are those of the streams that are open. -/
theorem Fresh.isStream_iff (fresh : h.Fresh) (none : h.watches = []) (actions : List HubAction) :
    (h.after actions).Counts kind id ↔ h.IsStream kind actions id := by
  -- By the last action: it changes what counts as it changes what is a stream.
  induction actions using List.reverseRecOn with
  | nil => simp [Counts, after, Hub.watch?, none, not_isStream_nil]
  | append_singleton past action ih =>
    have fresh' := (h.after_frame past).2.2 fresh
    rw [isStream_concat, ← ih, after_append]
    exact fresh'.counts_act action

/-- The watchers of a kind are its open streams. -/
theorem Distinct.watchers_eq (distinct : h.Distinct) (kind : ResourceKind) :
    ∃ streams : List Nat, streams.Nodup ∧ (∀ id, id ∈ streams ↔ h.Counts kind id) ∧
      h.watchers kind = streams.length := by
  -- The streams that count are the numbers of the open watches of the kind.
  let counted := h.watches.filter fun p => p.2.isOpen && p.2.request.kind == kind
  refine ⟨counted.map (·.1), ?_, fun id => ?_, ?_⟩
  · exact List.Nodup.sublist (List.filter_sublist.map _) distinct
  · simp only [counted, List.mem_map, List.mem_filter, Counts, Bool.and_eq_true, beq_iff_eq]
    constructor
    · rintro ⟨⟨number, w⟩, ⟨member, alive, own⟩, rfl⟩
      exact ⟨w, (Lookup.mem_iff distinct number w).mp member, alive, own⟩
    · rintro ⟨w, there, alive, own⟩
      exact ⟨(id, w), ⟨(Lookup.mem_iff distinct id w).mpr there, alive, own⟩, rfl⟩
  · rw [List.length_map]
    exact List.countP_eq_length_filter

end Hub

end WatchRelay
