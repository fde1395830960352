import WatchRelay.Proofs.Relay.Draining
import WatchRelay.Proofs.Trace

/-! Histories of the lifetimes of a relay: shutdown ends all of them and a drain returns in time,
and whatever else is done ends one of them at most. -/

namespace WatchRelay

namespace Lifetimes

/-- What is done with the lifetimes of a relay or happens to them, one thing at a time. -/
inductive Move where
  | add
  | cancel (index : Nat)
  | shutdown
  | awaitRequest (tag : Nat)
  | drain (tag : Nat) (timeout : Option Nat) (plans : List TaskPlan)
  | turn (turn : Turn)
  /-- Time passes up to a moment. -/
  | pass (moment : Nat)

/-- Whether a move requests shutdown. -/
def Move.requestsShutdown : Move → Bool
  | .shutdown | .drain .. => true
  | .add | .cancel _ | .awaitRequest _ | .turn _ | .pass _ => false

/-- Whether a move is made by what is there already, with nothing asked of it. -/
def Move.isOwn : Move → Bool
  | .turn _ | .pass _ => true
  | .add | .cancel _ | .shutdown | .awaitRequest _ | .drain .. => false

/-- Lets time pass up to a later moment, if nothing can be done by now and nothing is due on the
way. -/
def pass? (l : Lifetimes) (moment : Nat) : Option Lifetimes :=
  if l.step.isNone ∧ l.now < moment ∧ ∀ due ∈ l.deadlines, l.now < due →
    moment ≤ due then
    some { l with now := moment }
  else none

/-- What a move leads to, if it can be made. -/
def act (l : Lifetimes) : Move → Option Lifetimes
  | .add => some l.add
  | .cancel index => some (l.cancel index)
  | .shutdown => some l.shutdown
  | .awaitRequest tag => some (l.awaitRequest tag)
  | .drain tag timeout plans => some (l.drain tag timeout plans)
  | .turn t => l.turn t
  | .pass moment => l.pass? moment

/-- A move, and the lifetimes it met. -/
abbrev Entry := Trace.Entry Lifetimes Move

variable {l l' s s' : Lifetimes} {m : Move} {t : Turn} {past more : List Entry} {d : Drain}
  {drain index moment tag : Nat} {timeout : Option Nat} {plans : List TaskPlan}

/-! ### What each turn does -/

/-- What each turn does, where something can be done in it. -/
inductive Takes (l : Lifetimes) : Turn → Lifetimes → Prop where
  | told {tag : Nat} {rest : List Nat} (first : l.waiting = tag :: rest)
      (requested : l.shuttingDown = true) :
      Takes l .tell ({ l with waiting := rest }.giveBack tag none)
  | stepped {drain index : Nat} {d : Drain} {task task' : TaskState}
      (known : l.drains[drain]? = some d)
      (found : d.tasks[index]? = some task) (steps : task.step? l.now l.shuttingDown = some task') :
      Takes l (.task drain index)
        { l with drains := l.drains.set drain { d with tasks := d.tasks.set index task' } }
  | finished {drain : Nat} {d : Drain} {tasks : List TaskState} (known : l.drains[drain]? = some d)
      (outcome : d.outcome? l.now = some tasks) :
      Takes l (.finish drain)
        ({ l with drains := l.drains.set drain { d with tasks, endTime := some l.now } }.giveBack
          d.tag
          (some (Drain.abortedCount tasks)))

/-- Every turn that is taken is one of these. -/
theorem turn_takes (taken : l.turn t = some l') : l.Takes t l' := by
  cases t with
  -- A turn that is taken has found all it needs.
  | tell =>
    simp only [turn] at taken
    split at taken
    · next first requested =>
      obtain rfl := Option.some.inj taken
      exact .told first requested
    · cases taken
  | task drain index =>
    obtain ⟨d, known, taken⟩ := Option.bind_eq_some_iff.mp taken
    obtain ⟨task, found, taken⟩ := Option.bind_eq_some_iff.mp taken
    obtain ⟨task', steps, same⟩ := Option.bind_eq_some_iff.mp taken
    obtain rfl := Option.some.inj same
    exact .stepped known found steps
  | finish drain =>
    obtain ⟨d, known, taken⟩ := Option.bind_eq_some_iff.mp taken
    obtain ⟨tasks, outcome, same⟩ := Option.bind_eq_some_iff.mp taken
    obtain rfl := Option.some.inj same
    exact .finished known outcome

/-- Every turn that can be taken is tried. -/
theorem Takes.mem_turns (takes : l.Takes t l') : t ∈ l.turns := by
  -- Each turn is listed under the number of its drain and the place of its task.
  cases takes with
  | told => simp [turns]
  | @stepped drain index d task task' known found steps =>
    obtain ⟨there, -⟩ := List.getElem?_eq_some_iff.mp found
    refine List.mem_append_left _
      (List.mem_cons_of_mem _ (List.mem_flatMap.mpr ⟨(d, drain), ?_, ?_⟩))
    · exact List.mem_zipIdx_iff_getElem?.mpr known
    · exact List.mem_map.mpr ⟨index, List.mem_range.mpr there, rfl⟩
  | finished known outcome =>
    obtain ⟨there, -⟩ := List.getElem?_eq_some_iff.mp known
    exact List.mem_append_right _ (List.mem_map.mpr ⟨_, List.mem_range.mpr there, rfl⟩)

/-- While all have to wait, no turn can be taken. -/
theorem turn_of_step (rests : l.step = none) (t : Turn) : l.turn t = none := by
  cases taken : l.turn t with
  | none => rfl
  | some l' =>
    -- A turn that can be taken is among those that are tried.
    have tried := List.findSome?_eq_none_iff.mp rests t (turn_takes taken).mem_turns
    rw [tried] at taken
    cases taken

/-- Time passes when it may. -/
theorem pass?_eq_some (passed : l.pass? moment = some l') :
    l.step = none ∧ l.now < moment ∧
    (∀ due ∈ l.deadlines, l.now < due → moment ≤ due) ∧
      l' = { l with now := moment } := by
  -- Time passes only when nothing can be done, and no further than to the next deadline.
  unfold pass? at passed
  split at passed
  · next may =>
    obtain ⟨rests, later, next⟩ := may
    exact ⟨by simpa using rests, later, next, (Option.some.inj passed).symm⟩
  · cases passed

/-- While all have to wait, time may pass. -/
theorem exists_pass (rests : l.step = none) : ∃ moment l', l.act (.pass moment) = some l' := by
  -- A moment ahead is never too far, as no deadline lies in between.
  have may : l.step.isNone ∧ l.now < l.now + 1 ∧ ∀ due ∈ l.deadlines, l.now < due →
      l.now + 1 ≤ due :=
    ⟨by simp [rests], Nat.lt_succ_self _, fun _ _ later => later⟩
  exact ⟨l.now + 1, { l with now := l.now + 1 }, if_pos may⟩

/-! ### Lifetimes -/

/-- Shutdown is requested by the moves that request it alone. -/
theorem act_shuttingDown (moved : l.act m = some l') :
    l'.shuttingDown = (l.shuttingDown || m.requestsShutdown) := by
  -- Only the request itself shuts down. What comes after it leaves that as it is.
  cases m with
  | turn t => cases turn_takes moved <;> simp [giveBack, Move.requestsShutdown]
  | pass moment =>
    obtain ⟨-, -, -, rfl⟩ := pass?_eq_some moved
    simp [Move.requestsShutdown]
  | _ =>
    obtain rfl := Option.some.inj moved
    simp [add, cancel, shutdown, awaitRequest, Lifetimes.drain, Move.requestsShutdown]

/-- Whether a move ends one of the lifetimes that are there on its own. -/
def Cancels (o : Entry) (index : Nat) : Prop :=
  o.move = .cancel index ∧ index < o.state.cancelled.length

/-- A lifetime is cancelled on its own where it was before, and by a move that ends it. -/
theorem act_cancelled (moved : l.act m = some l') (index : Nat) :
    l'.cancelled[index]? = some true ↔ l.cancelled[index]? = some true ∨
    Cancels ⟨l, m⟩ index := by
  unfold Cancels
  cases m with
  | add =>
    obtain rfl := Option.some.inj moved
    -- The one that starts is not cancelled.
    simp only [add, List.getElem?_append, reduceCtorEq, false_and, or_false]
    split
    · exact Iff.rfl
    · next beyond =>
      have none_ : l.cancelled[index]? = none := List.getElem?_eq_none (by omega)
      cases place : index - l.cancelled.length <;> simp [none_]
  | cancel other =>
    obtain rfl := Option.some.inj moved
    simp only [cancel, List.getElem?_set, Move.cancel.injEq]
    -- It is this one that is cancelled, if it is there, or it is another.
    by_cases same : other = index
    · subst same
      by_cases there : other < l.cancelled.length
      · simp [there]
      · simp [there]
    · simp [same]
  | turn t => cases turn_takes moved <;> simp [giveBack]
  | pass moment =>
    obtain ⟨-, -, -, rfl⟩ := pass?_eq_some moved
    simp
  | _ =>
    obtain rfl := Option.some.inj moved
    simp [shutdown, awaitRequest, Lifetimes.drain]

/-- Shutdown is requested once a move has requested it, and not before. -/
theorem shuttingDown_of_trace (run : Trace act .start past s) :
    s.shuttingDown = true ↔ ∃ o ∈ past, o.move.requestsShutdown = true := by
  -- The flag is raised by the request and never taken back.
  refine run.keeps (P := fun past s => s.shuttingDown = true ↔
    ∃ o ∈ past, o.move.requestsShutdown = true)
    (by simp [start]) fun _ moved known => ?_
  rw [act_shuttingDown moved, Bool.or_eq_true, known]
  simp only [List.mem_append, List.mem_singleton, or_and_right, exists_or, exists_eq_left]

/-- A lifetime is cancelled on its own once a move has ended it, and not before. -/
theorem cancelled_of_trace (run : Trace act .start past s) (index : Nat) :
    s.cancelled[index]? = some true ↔ ∃ o ∈ past, Cancels o index := by
  -- Each move tells for itself whether it cancels, so they add up.
  refine run.keeps (P := fun past s => s.cancelled[index]? = some true ↔
    ∃ o ∈ past, Cancels o index) (by simp [start])
    fun _ moved known => ?_
  rw [act_cancelled moved, known]
  simp only [List.mem_append, List.mem_singleton, or_and_right, exists_or, exists_eq_left]

/-- A lifetime has ended once shutdown was requested or it was cancelled on its own. -/
theorem ended_of_trace (run : Trace act .start past s) {ended : Bool}
    (known : s.ended[index]? = some ended) :
    ended = true ↔ (∃ o ∈ past, o.move.requestsShutdown = true) ∨
    ∃ o ∈ past, Cancels o index := by
  -- A lifetime has ended when it is cancelled alone, or with all the others.
  rw [← shuttingDown_of_trace run, ← cancelled_of_trace run]
  rw [Lifetimes.ended, List.getElem?_map, Option.map_eq_some_iff] at known
  obtain ⟨alone, found, rfl⟩ := known
  rw [found, Bool.or_eq_true, Option.some_inj]
  exact Or.comm

/-! ### Drains -/

/-- What a move does to one of the drains, and up to when. -/
inductive Treats (drain : Nat) (l : Lifetimes) (d : Drain) : Move → Nat → Drain → Prop where
  | left {m : Move} : Treats drain l d m l.now d
  | stepped {index : Nat} {task task' : TaskState} (found : d.tasks[index]? = some task)
      (steps : task.step? l.now l.shuttingDown = some task') :
      Treats drain l d (.turn (.task drain index)) l.now { d with tasks := d.tasks.set index task' }
  | finished {tasks : List TaskState} (outcome : d.outcome? l.now = some tasks) :
      Treats drain l d (.turn (.finish drain)) l.now { d with tasks, endTime := some l.now }
  | passed {moment : Nat} (rests : l.step = none) (later : l.now < moment)
      (next : ∀ due ∈ d.deadlines, l.now < due → moment ≤ due) :
        Treats drain l d (.pass moment) moment d

/-- Where one of the drains is changed, it is this one or another. -/
theorem drains_set {other : Nat} {d' : Drain} (known : l.drains[drain]? = some d) :
    (l.drains.set other d')[drain]? = some (if other = drain then d' else d) := by
  -- The drain is the one that was replaced, or another one.
  by_cases same : other = drain
  · obtain ⟨there, -⟩ := List.getElem?_eq_some_iff.mp known
    subst same
    simp [there]
  · simp [same, known]

/-- Every move treats a drain in one of these ways. -/
theorem act_treats (moved : l.act m = some l') (known : l.drains[drain]? = some d) :
    ∃ d', l'.drains[drain]? = some d' ∧ l.Treats drain d m l'.now d' := by
  -- Only the turns of the drain itself and the passing of time do anything to it.
  cases m with
  | turn t =>
    cases turn_takes moved with
    | told => exact ⟨d, known, .left⟩
    | @stepped other index d₁ task task' known₁ found steps =>
      refine ⟨_, drains_set known, ?_⟩
      split
      · next same =>
        subst same
        obtain rfl := Option.some.inj (known.symm.trans known₁)
        exact .stepped found steps
      · exact .left
    | @finished other d₁ tasks known₁ outcome =>
      refine ⟨_, drains_set known, ?_⟩
      split
      · next same =>
        subst same
        obtain rfl := Option.some.inj (known.symm.trans known₁)
        exact .finished outcome
      · exact .left
  | pass moment =>
    obtain ⟨rests, later, next, rfl⟩ := pass?_eq_some moved
    have among : d ∈ l.drains := List.mem_of_getElem? known
    exact ⟨d, known, .passed rests later fun due isDue =>
      next due (List.mem_flatMap.mpr ⟨d, among, isDue⟩)⟩
  | drain tag timeout plans =>
    obtain rfl := Option.some.inj moved
    obtain ⟨there, -⟩ := List.getElem?_eq_some_iff.mp known
    exact ⟨d, by simpa [Lifetimes.drain, shutdown, List.getElem?_append_left there] using known,
      .left⟩
  | _ =>
    obtain rfl := Option.some.inj moved
    exact ⟨d, known, .left⟩

/-- Whatever is done, a drain keeps its tag and its deadline. -/
theorem Treats.same {now : Nat} {d' : Drain} (treats : l.Treats drain d m now d') :
    d'.tag = d.tag ∧ d'.deadline = d.deadline := by
  cases treats <;> exact ⟨rfl, rfl⟩

/-- A drain that waits goes on waiting, or it returns. -/
theorem Treats.waits {called now : Nat} {d' : Drain} (treats : l.Treats drain d m now d')
    (requested : l.shuttingDown = true) (known : l.drains[drain]? = some d)
    (waiting : d.IsWaiting called l.now plans) :
    d'.IsWaiting called now plans ∨ m = .turn (.finish drain) ∧
    d'.IsOver called l.now plans d.tasks := by
  cases treats with
  | left => exact .inl waiting
  | stepped found steps => exact .inl (waiting.step found steps)
  | finished outcome => exact .inr ⟨rfl, waiting.finish outcome⟩
  | passed rests later next =>
    -- No turn of a task can be taken, nor that of the drain.
    refine .inl (waiting.pass (fun task among => ?_) ?_ (Nat.le_of_lt later) next)
    · obtain ⟨index, found⟩ := List.mem_iff_getElem?.mp among
      have nothing := turn_of_step rests (.task drain index)
      cases steps : task.step? l.now true with
      | none => rfl
      | some task' => simp [turn, known, found, requested, steps] at nothing
    · have nothing := turn_of_step rests (.finish drain)
      cases outcome : d.outcome? l.now with
      | none => rfl
      | some tasks => simp [turn, known, outcome] at nothing

/-- A drain that has returned is left as it is. -/
theorem Treats.stays {called ended now : Nat} {left : List TaskState} {d' : Drain}
    (treats : l.Treats drain d m now d')
    (isOver : d.IsOver called ended plans left) : d' = d := by
  -- A drain that is over has no task to step and no outcome to give, and time goes by it.
  cases treats with
  | left => rfl
  | stepped found steps => rw [isOver.step found] at steps; cases steps
  | finished outcome => rw [isOver.outcome?] at outcome; cases outcome
  | passed => rfl

/-- What was returned stays where it is. -/
theorem act_returned (moved : l.act m = some l') {place : Nat} {r : LifetimeReturn}
    (known : l.returned[place]? = some r) : l'.returned[place]? = some r := by
  obtain ⟨there, -⟩ := Array.getElem?_eq_some_iff.mp known
  -- What returns is added at the end.
  have pushed (other : LifetimeReturn) : (l.returned.push other)[place]? = some r := by
    rw [Array.getElem?_push_lt there, ← known, Array.getElem?_eq_getElem there]
  cases m with
  | turn t =>
    cases turn_takes moved with
    | told => exact pushed _
    | stepped => exact known
    | finished => exact pushed _
  | pass moment =>
    obtain ⟨-, -, -, rfl⟩ := pass?_eq_some moved
    exact known
  | _ =>
    obtain rfl := Option.some.inj moved
    exact known

/-- The turn of a drain puts what it returns behind all that was returned before. -/
theorem returned_of_finish (moved : l.act (.turn (.finish drain)) = some l') {d' : Drain}
    (known : l'.drains[drain]? = some d') :
    l'.returned[l.returned.size]? =
      some ⟨d'.tag, some (Drain.abortedCount d'.tasks), l.now⟩ := by
  have takes : l.Takes (.finish drain) l' := turn_takes moved
  -- Only the drain in this place has finished, and it says how many of its tasks were stopped.
  cases takes with
  | finished before outcome =>
    rw [show (giveBack _ _ _).drains = l.drains.set drain _ from rfl, drains_set before,
      if_pos rfl] at known
    obtain rfl := Option.some.inj known
    simp [giveBack]

/-- Whether it was at this occasion that a drain returned, with what has not ended aborted, and gave
back how many tasks that were. -/
def Returns (drain called : Nat) (plans : List TaskPlan) (d : Drain) (s : Lifetimes) (o : Entry) :
    Prop :=
  o.move = .turn (.finish drain) ∧ ∃ left, o.state.drains[drain]? = some left ∧
    d.IsOver called o.state.now plans left.tasks ∧
    s.returned[o.state.returned.size]? =
      some ⟨d.tag, some (Drain.abortedCount d.tasks), o.state.now⟩

/-- A drain that waits once shutdown is requested waits until an occasion at which it returns. -/
theorem waits_of_trace {called : Nat} (run : Trace act s past s')
    (requested : s.shuttingDown = true)
    (known : s.drains[drain]? = some d) (waiting : d.IsWaiting called s.now plans) :
    s'.shuttingDown = true ∧ ∃ d', s'.drains[drain]? = some d' ∧ d'.tag = d.tag ∧
    d'.deadline = d.deadline ∧
      (d'.IsWaiting called s'.now plans ∨
        ∃ o ∈ past, Returns drain called plans d' s' o) := by
  -- The drain waits up to the occasion of its return, and is left as it is from there on.
  refine run.keeps (P := fun past s' => s'.shuttingDown = true ∧
    ∃ d', s'.drains[drain]? = some d' ∧ d'.tag = d.tag ∧
    d'.deadline = d.deadline ∧
      (d'.IsWaiting called s'.now plans ∨ ∃ o ∈ past, Returns drain called plans d' s' o))
    ⟨requested, d, known, rfl, rfl, .inl waiting⟩ ?_
  rintro past s₁ s₂ m - moved ⟨requested, d₁, known, tag, deadline, now_⟩
  obtain ⟨d₂, known', treats⟩ := act_treats moved known
  obtain ⟨tag', deadline'⟩ := treats.same
  have requested' : s₂.shuttingDown = true := by
    rw [act_shuttingDown moved, requested, Bool.true_or]
  refine ⟨requested', d₂, known', tag'.trans tag, deadline'.trans deadline, ?_⟩
  rcases now_ with waiting | ⟨o, among, own, left, there, isOver, returned⟩
  · rcases treats.waits requested known waiting with waiting | ⟨rfl, isOver⟩
    · exact .inl waiting
    · -- It returns at this very occasion.
      refine .inr ⟨⟨s₁, .turn (.finish drain)⟩, by simp, rfl, d₁, known, isOver, ?_⟩
      exact returned_of_finish moved known'
  · -- It has returned before and is left as it is.
    obtain rfl := treats.stays isOver
    exact .inr ⟨o, List.mem_append_left _ among, own, left, there, isOver,
      act_returned moved returned⟩

/-! ### Drains return -/

/-- How many turns can be taken yet while time does not pass. -/
def toDo (l : Lifetimes) : Nat := l.waiting.length + workOf Drain.toDo l.drains

/-- Every turn is one less to take, at the same time. -/
theorem Takes.toDo_lt (takes : l.Takes t l') : l'.toDo < l.toDo ∧ l'.now = l.now := by
  unfold toDo
  cases takes with
  | told first requested => simp [giveBack, first]
  | stepped known found steps =>
    refine ⟨Nat.add_lt_add_left (workOf_set_lt known ?_) _, rfl⟩
    -- The drain itself is as it was, and its task has a step less to take.
    exact Nat.add_lt_add_left (workOf_set_lt found (TaskState.toDo_step steps)) _
  | @finished drain d tasks known outcome =>
    refine ⟨Nat.add_lt_add_left (workOf_set_lt known ?_) _, rfl⟩
    -- The drain has returned, and what it has aborted takes no more steps.
    obtain ⟨waits, rfl, -⟩ := Drain.outcome?_eq_some outcome
    have nothing : workOf TaskState.toDo (d.tasks.map TaskState.abort) = 0 :=
      workOf_eq_zero (List.forall_mem_map.mpr fun task _ => task.toDo_abort)
    simp only [Drain.toDo, waits, nothing, Option.isNone_none, Option.isNone_some]
    exact Nat.add_pos_left Nat.one_pos _

/-- Left alone, the lifetimes make no more moves than there are turns to take and milliseconds that
pass. -/
theorem length_of_own (run : Trace act s past s') (own : ∀ o ∈ past, o.move.isOwn = true) :
    past.length + s'.toDo + s.now ≤ s.toDo + s'.now := by
  induction run with
  | start => simp
  | @next past s₁ s₂ m run moved ih =>
    have before := ih fun o among => own o (List.mem_append_left _ among)
    have last : m.isOwn = true := own ⟨s₁, m⟩ (by simp)
    rw [List.length_append, List.length_singleton]
    -- A turn is one less to take and no time passes, or a millisecond at least passes and the turns
    -- are as many.
    cases m with
    | turn t =>
      obtain ⟨less, same⟩ := (turn_takes moved).toDo_lt
      omega
    | pass moment =>
      obtain ⟨-, later, -, rfl⟩ := pass?_eq_some moved
      have same : ({ s₁ with now := moment } : Lifetimes).toDo = s₁.toDo := rfl
      have passed : ({ s₁ with now := moment } : Lifetimes).now = moment := rfl
      omega
    | _ => cases last

/-- Something can always be done: a turn is taken or time passes. -/
theorem exists_own (l : Lifetimes) : ∃ m l', m.isOwn = true ∧ l.act m = some l' := by
  -- Either something can be done now, or time can pass.
  cases rests : l.step with
  | none =>
    obtain ⟨moment, l', passed⟩ := exists_pass rests
    exact ⟨.pass moment, l', rfl, passed⟩
  | some l' =>
    obtain ⟨t, -, taken⟩ := List.exists_of_findSome?_eq_some rests
    exact ⟨.turn t, l', rfl, taken⟩

/-- Whether a drain is bound to return: left alone, something goes on, and the drain returns after
so many moves at most. -/
def IsBound (drain : Nat) (d : Drain) (s : Lifetimes) : Prop :=
  (∃ m s', m.isOwn = true ∧ s.act m = some s') ∧
    ∀ more s', Trace act s more s' → (∀ o ∈ more, o.move.isOwn = true) →
      s.toDo + (d.deadline - s.now) < more.length → ∃ o ∈ more, o.move = .turn (.finish drain)

/-- A drain that waits once shutdown is requested is bound to return. -/
theorem isBound_of_isWaiting {called : Nat} (requested : s.shuttingDown = true)
    (known : s.drains[drain]? = some d)
    (waiting : d.IsWaiting called s.now plans) : IsBound drain d s := by
  refine ⟨exists_own s, fun more s' run own long => ?_⟩
  obtain ⟨-, d', -, -, deadline, waits | ⟨o, among, finish, -⟩⟩ :=
    -- The two bounds together leave no room for another move of its own.
    waits_of_trace run requested known waiting
  · -- It cannot wait any longer: time does not pass beyond its deadline.
    have most := length_of_own run own
    have early := waits.early
    have begun := waiting.early
    omega
  · exact ⟨o, among, finish⟩

/-- Shutdown is graceful.

It is requested by the moves that do so alone, those that drain tasks among them.
It ends every lifetime from then on.

Short of it a lifetime has ended if it was cancelled on its own, which touches no other.

A drain waits no longer than its deadline, however turns are taken and whatever else is done.
It is bound to return.

It has aborted exactly the tasks that had not ended by then, and gives back how many.
If there is none it returned as soon as the last had ended, and else at the deadline. -/
theorem shutdown_is_graceful (run : Trace act .start past s) :
    (s.shuttingDown = true ↔ ∃ o ∈ past, o.move.requestsShutdown = true) ∧
    (∀ index ended, s.ended[index]? = some ended →
      (ended = true ↔ s.shuttingDown = true ∨ ∃ o ∈ past, Cancels o index)) ∧
    ∀ before l tag timeout plans after, past =
      before ++ ⟨l, .drain tag timeout plans⟩ :: after →
      ∃ d, s.drains[l.drains.length]? = some d ∧ d.tag = tag ∧
        d.deadline = l.now + timeout.getD Drain.defaultTimeout ∧
        (d.IsWaiting l.now s.now plans ∧ IsBound l.drains.length d s ∨
          ∃ o ∈ after, Returns l.drains.length l.now plans d s o) := by
  refine ⟨shuttingDown_of_trace run, fun index ended known => ?_,
    fun before l tag timeout plans after split => ?_⟩
  · rw [shuttingDown_of_trace run]
    exact ended_of_trace run known
  · subst split
    obtain ⟨s₁, -, moved, rest⟩ := run.split
    obtain rfl : l.drain tag timeout plans = s₁ := Option.some.inj moved
    -- The drain waits from its call on.
    let begun : Drain :=
      ⟨tag, l.now + timeout.getD Drain.defaultTimeout, plans.map (TaskState.start l.now), none⟩
    have there : (l.drain tag timeout plans).drains[l.drains.length]? = some begun := by
      simp [Lifetimes.drain, shutdown, begun]
    have waits : begun.IsWaiting l.now l.now plans :=
      Drain.isWaiting_start tag (Nat.le_add_right _ _)
    obtain ⟨requested, d, known, tag', deadline, now_⟩ := waits_of_trace rest rfl there waits
    refine ⟨d, known, tag', deadline, now_.imp_left fun waiting => ⟨waiting, ?_⟩⟩
    exact isBound_of_isWaiting requested known waiting

/-- Of the tasks of one drain those that take too long are aborted at the deadline, while those of
another have ended long before. -/
theorem shutdown_is_graceful_mixed :
    let mixed := [TaskPlan.cooperative 20, .sleep 80, .stuck, .crash, .done]
    ∃ before l after s, Trace act .start
      (before ++ ⟨l, .drain 7 (some 50) mixed⟩ :: after) s ∧
      l.ended = [true, false] ∧ s.ended = [true, true] ∧
      s.returned.toList = [⟨8, some 0, 30⟩, ⟨7, some 2, 50⟩] ∧
      ∃ d, s.drains[0]? = some d ∧
        d.tasks = [.finished, .aborted, .aborted, .finished, .finished] ∧
        ∃ o ∈ after, Returns 0 0 mixed d s o := by
  intro mixed
  let task (drain index : Nat) : Move := .turn (.task drain index)
  let first : List Move := [.add, .add, .cancel 0]
  let rest : List Move :=
    [task 0 3, .drain 8 none [.sleep 30, .cooperative 10], task 0 0, task 1 1, .pass 10, task 1 1,
      .pass 20, task 0 0, .pass 30, task 1 0, .turn (.finish 1), .pass 50, .turn (.finish 0)]
  -- The moves are played, and what stands before the drain and behind it all is looked at.
  have plays : ((Trace.play act .start first).any fun p =>
      decide (p.2.ended = [true, false] ∧ p.2.drains.length = 0 ∧ p.2.now = 0) &&
        (Trace.play act (p.2.drain 7 (some 50) mixed) rest).any fun q =>
          decide (q.2.ended = [true, true] ∧
            q.2.returned.toList = [⟨8, some 0, 30⟩, ⟨7, some 2, 50⟩] ∧
            (q.2.drains[0]?.map fun d => (d.tasks, d.endTime)) =
              some ([.finished, .aborted, .aborted, .finished, .finished], some 50))) = true := by
    decide +kernel
  obtain ⟨⟨before, l⟩, played, checked⟩ := (Option.any_eq_true _ _).mp plays
  obtain ⟨checked, plays'⟩ := (Bool.and_eq_true _ _).mp checked
  -- Time stood still before the drain, so its deadline is counted from the start.
  obtain ⟨alone, none_, early⟩ := of_decide_eq_true checked
  obtain ⟨⟨after, s⟩, played', checked'⟩ := (Option.any_eq_true _ _).mp plays'
  obtain ⟨ended, returned, same⟩ := of_decide_eq_true checked'
  have run : Trace act .start (before ++ ⟨l, .drain 7 (some 50) mixed⟩ :: after) s := by
    rw [List.append_cons]
    exact ((Trace.of_play played).next rfl).append (Trace.of_play played')
  obtain ⟨d, known, -, -, waits⟩ :=
    (shutdown_is_graceful run).2.2 before l 7 (some 50) mixed after rfl
  rw [none_, early] at waits
  rw [none_] at known
  rw [known, Option.map_some, Option.some_inj, Prod.mk.injEq] at same
  -- It does not wait any more.
  have returns := waits.resolve_left fun waiting => by
    rw [waiting.1.endTime] at same
    cases same.2
  exact ⟨before, l, after, s, run, alone, ended, returned, d, known, same.1, returns⟩

end Lifetimes

end WatchRelay
