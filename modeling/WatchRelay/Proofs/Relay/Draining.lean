import Mathlib.Data.List.Forall2
import WatchRelay.Relay.Lifetimes

/-! Draining: what is known of the tasks of a drain while it waits, and what has become of them when
it returns. -/

namespace WatchRelay

/-! ### What is to do in all of a list -/

section

variable {α : Type} {work : α → Nat} {xs : List α} {x x' : α}

/-- What is to do in all, given what is to do in each. -/
def workOf (work : α → Nat) : List α → Nat
  | [] => 0
  | x :: rest => work x + workOf work rest

/-- Where less is to do in one of them, less is to do in all. -/
theorem workOf_set_lt {index : Nat} (found : xs[index]? = some x) (less : work x' < work x) :
    workOf work (xs.set index x') < workOf work xs := by
  -- One item gets less, and the others stay as they are.
  induction xs generalizing index with
  | nil => simp at found
  | cons first rest ih =>
    cases index with
    | zero =>
      obtain rfl : first = x := by simpa using found
      exact Nat.add_lt_add_right less _
    | succ index => exact Nat.add_lt_add_left (ih (by simpa using found)) _

/-- Where nothing is to do in any of them, nothing is to do. -/
theorem workOf_eq_zero (nothing : ∀ x ∈ xs, work x = 0) : workOf work xs = 0 := by
  -- Each item adds nothing.
  induction xs with
  | nil => rfl
  | cons first rest ih =>
    obtain ⟨here, later⟩ := List.forall_mem_cons.mp nothing
    rw [workOf, here, ih later]

end

/-! ### Two lists that are related place by place -/

section

variable {α β : Type} {R S : α → β → Prop} {as : List α} {bs : List β}

/-- What is in the second list is related to something in the first. -/
theorem exists_of_forall₂ (related : List.Forall₂ R as bs) {b : β} (among : b ∈ bs) :
    ∃ a ∈ as, R a b := by
  -- The item is related to the one in its place.
  induction related with
  | nil => cases among
  | cons first rest ih =>
    rcases List.mem_cons.mp among with rfl | later
    · exact ⟨_, List.mem_cons_self, first⟩
    · obtain ⟨a, there, known⟩ := ih later
      exact ⟨a, List.mem_cons_of_mem _ there, known⟩

/-- What follows for each in the second list holds at every place. -/
theorem forall₂_imp (related : List.Forall₂ R as bs)
    (follows : ∀ a, ∀ b ∈ bs, R a b → S a b) :
    List.Forall₂ S as bs := by
  -- Both lists are walked through together.
  induction related with
  | nil => exact .nil
  | cons first rest ih =>
    obtain ⟨here, later⟩ := forall_and.mp fun a => List.forall_mem_cons.mp (follows a)
    exact .cons (here _ first) (ih later)

/-- Where one of two lists is changed at a place, what relates them is looked at there. -/
theorem forall₂_set {index : Nat} {b b' : β} (related : List.Forall₂ R as bs)
    (found : bs[index]? = some b)
    (keeps : ∀ a, R a b → R a b') : List.Forall₂ R as (bs.set index b') := by
  -- The items in this place are still related, and the others are not touched.
  induction related generalizing index with
  | nil => exact .nil
  | cons first rest ih =>
    cases index with
    | zero =>
      obtain rfl := by simpa using found
      exact .cons (keeps _ first) rest
    | succ index => exact .cons first (ih (by simpa using found))

end

/-! ### Tasks -/

/-- When a task is due to end whose lifetime has ended at the time at which it is handed over. -/
def TaskPlan.due? (called : Nat) : TaskPlan → Option Nat
  | .cooperative ms | .sleep ms => some (called + ms)
  | .stuck => none
  | .crash | .done => some called

/-- When the last task is due to end, of those that are. -/
def TaskPlan.lastDue (called : Nat) (plans : List TaskPlan) : Nat :=
  (plans.filterMap (TaskPlan.due? called)).max?.getD called

/-- No task is due before it is handed over. -/
theorem TaskPlan.called_le_due {plan : TaskPlan} {called due : Nat}
    (isDue : plan.due? called = some due) :
    called ≤ due := by
  cases plan <;> simp only [TaskPlan.due?, Option.some.injEq, reduceCtorEq] at isDue <;> omega

/-- Where all are due by some time, which is the time of the call or when one is due, the last is
due then. -/
theorem TaskPlan.lastDue_eq {plans : List TaskPlan} {called time : Nat}
    (all : ∀ plan ∈ plans, ∃ due ∈ plan.due? called, due ≤ time)
    (met : time = called ∨ ∃ plan ∈ plans, plan.due? called = some time) :
    TaskPlan.lastDue called plans = time := by
  unfold TaskPlan.lastDue
  cases last : (plans.filterMap (TaskPlan.due? called)).max? with
  | none =>
    -- Where none is due, the time is that of the call.
    have empty := List.max?_eq_none_iff.mp last
    rcases met with same | ⟨plan, among, isDue⟩
    · exact same.symm
    · have due : time ∈ plans.filterMap (TaskPlan.due? called) :=
        List.mem_filterMap.mpr ⟨plan, among, isDue⟩
      rw [empty] at due
      cases due
  | some latest =>
    obtain ⟨among, most⟩ := List.max?_eq_some_iff.mp last
    obtain ⟨plan, known, isDue⟩ := List.mem_filterMap.mp among
    -- The last is among those that are due by then.
    have before : latest ≤ time := by
      obtain ⟨due, same, early⟩ := all plan known
      obtain rfl : latest = due := Option.some.inj (isDue.symm.trans same)
      exact early
    -- And none is due after the last.
    have after : time ≤ latest := by
      rcases met with same | ⟨plan, among, isDue⟩
      · rw [same]
        exact TaskPlan.called_le_due isDue
      · exact most _ (List.mem_filterMap.mpr ⟨plan, among, isDue⟩)
    exact Nat.le_antisymm before after

namespace TaskState

variable {called now moment deadline : Nat} {plan : TaskPlan} {task task' : TaskState}
  {ended : Bool}

/-- What is known at some time of a task of a drain that waits. -/
def IsAt (called now : Nat) (plan : TaskPlan) : TaskState → Prop
  | .waiting ms => plan = .cooperative ms ∧ now = called
  | .running ends => plan.due? called = ends ∧ ∀ due ∈ ends, now ≤ due
  | .finished => ∃ due ∈ plan.due? called, due ≤ now
  | .aborted => False

/-- What is known of a task of a drain that has returned: it has ended when it was due, or it is
aborted at the deadline, before it was due or just then. -/
def IsEnded (called deadline time : Nat) (plan : TaskPlan) : TaskState → Prop
  | .finished => ∃ due ∈ plan.due? called, due ≤ time
  | .aborted => time = deadline ∧ ∀ due ∈ plan.due? called, deadline ≤ due
  | .waiting _ | .running _ => False

/-- A task is what it is planned to be when it is handed over. -/
theorem isAt_start : (start called plan).IsAt called called plan := by
  cases plan <;> simp [start, IsAt, TaskPlan.due?]

/-- A step leaves a task where it is planned to be. -/
theorem IsAt.step (known : task.IsAt called now plan) (steps : task.step? now ended = some task') :
    task'.IsAt called now plan := by
  -- A task moves when it is told or when its time has come, by its phase.
  unfold step? at steps
  split at steps
  · -- It is told, at the time of the call.
    obtain ⟨rfl, rfl⟩ := known
    split at steps
    · obtain rfl := Option.some.inj steps
      exact ⟨rfl, fun due same => by cases same; omega⟩
    · cases steps
  · -- It ends, for its time has come.
    next ends =>
    obtain ⟨isDue, -⟩ := known
    split at steps
    · next come =>
      obtain rfl := Option.some.inj steps
      exact ⟨ends, isDue, come⟩
    · cases steps
  all_goals cases steps

/-- A task ends at the time at which it is due. -/
theorem IsAt.due_of_step (known : task.IsAt called now plan)
    (steps : task.step? now ended = some .finished) :
    plan.due? called = some now := by
  unfold step? at steps
  split at steps
  · -- Being told is not the end.
    split at steps <;> simp at steps
  · next ends =>
    obtain ⟨isDue, later⟩ := known
    split at steps
    · next come =>
      -- It is due now: not earlier, and not later.
      have same : now = ends := Nat.le_antisymm (later ends rfl) come
      rw [isDue, same]
    · cases steps
  all_goals cases steps

/-- Time that passes while a task has no step leaves it where it is planned to be. -/
theorem IsAt.pass (known : task.IsAt called now plan) (rests : task.step? now true = none)
    (later : now ≤ moment)
    (next : ∀ due, task.ends? = some due → now < due → moment ≤ due) :
    task.IsAt called moment plan := by
  -- A task that runs is due no earlier than the moment, since time stops where something is due.
  cases task with
  | waiting ms => simp [step?] at rests
  | running ends =>
    obtain ⟨isDue, -⟩ := known
    refine ⟨isDue, fun due same => ?_⟩
    obtain rfl : ends = some due := same
    have ahead : now < due := by simpa [step?] using rests
    exact next due rfl ahead
  | finished =>
    obtain ⟨due, isDue, early⟩ := known
    exact ⟨due, isDue, Nat.le_trans early later⟩
  | aborted => exact known

/-- What has not ended at the deadline is aborted then. -/
theorem IsAt.abort (known : task.IsAt called now plan) (late : task ≠ .finished →
    now = deadline) :
    task.abort.IsEnded called deadline now plan := by
  -- Who is stopped has not ended, so the deadline has come and no earlier end was due.
  cases task with
  | waiting ms =>
    obtain ⟨rfl, rfl⟩ := known
    refine ⟨late (by simp), fun due same => ?_⟩
    cases same
    have same := late (by simp)
    omega
  | running ends =>
    obtain ⟨isDue, later⟩ := known
    refine ⟨late (by simp), fun due same => ?_⟩
    rw [← late (by simp)]
    exact later due (isDue ▸ same)
  | finished => exact known
  | aborted => exact known.elim

/-- A task of a drain that has returned has no further step. -/
theorem IsEnded.step {time : Nat} (known : task.IsEnded called deadline time plan) :
    task.step? now ended = none := by
  -- A task that has ended, or was stopped, takes no step.
  cases task with
  | waiting ms => exact known.elim
  | running ends => exact known.elim
  | finished => rfl
  | aborted => rfl

/-- How many steps a task can take yet. -/
def toDo : TaskState → Nat
  | .waiting _ => 2
  | .running _ => 1
  | .finished | .aborted => 0

/-- Every step is one less to take. -/
theorem toDo_step (steps : task.step? now ended = some task') : task'.toDo < task.toDo := by
  -- From waiting to running and from running to the end there is less to do each time.
  unfold step? at steps
  split at steps
  · split at steps
    · obtain rfl := Option.some.inj steps
      simp [toDo]
    · cases steps
  · split at steps
    · obtain rfl := Option.some.inj steps
      simp [toDo]
    · cases steps
  all_goals cases steps

/-- A task that is aborted has no more steps to take. -/
theorem toDo_abort (task : TaskState) : task.abort.toDo = 0 := by
  cases task <;> rfl

end TaskState

/-! ### Drains -/

namespace Drain

variable {called now moment ended index : Nat} {plans : List TaskPlan} {d : Drain}
  {task task' : TaskState}
  {tasks left : List TaskState}

/-- A drain that waits, and has done so since it was called. -/
structure IsWaiting (called now : Nat) (plans : List TaskPlan) (d : Drain) : Prop where
  endTime : d.endTime = none
  begun : called ≤ now
  early : now ≤ d.deadline
  tasks : List.Forall₂ (TaskState.IsAt called now) plans d.tasks
  /-- When all have ended it is still the time at which the last of them did. -/
  prompt : (∀ task ∈ d.tasks, task = .finished) → now = called ∨
    ∃ plan ∈ plans, plan.due? called = some now

/-- A drain that returned at some time, and how far it found its tasks then. -/
structure IsOver (called ended : Nat) (plans : List TaskPlan) (left : List TaskState) (d : Drain) :
    Prop where
  endTime : d.endTime = some ended
  inTime : called ≤ ended ∧ ended ≤ d.deadline
  /-- Those that have ended stay as they are, and the others are aborted. -/
  aborts : d.tasks = left.map TaskState.abort
  count : abortedCount d.tasks = left.countP (· != .finished)
  each : List.Forall₂ (TaskState.IsEnded called d.deadline ended) plans d.tasks
  /-- If none is aborted, it returned when the last had ended. -/
  prompt : abortedCount d.tasks = 0 → ended = TaskPlan.lastDue called plans
  /-- If one is, it returned at the deadline. -/
  late : abortedCount d.tasks ≠ 0 → ended = d.deadline

/-- The drains that are over have a result, and it is what there is when those that have not ended
are aborted. -/
theorem outcome?_eq_some (outcome : d.outcome? now = some tasks) :
    -- Either every task has finished, or the deadline has come with some of them left.
    d.endTime = none ∧ tasks = d.tasks.map TaskState.abort ∧
      ((∀ task ∈ d.tasks, task = .finished) ∨ d.deadline ≤ now) := by
  unfold outcome? at outcome
  split at outcome
  · cases outcome
  · next open_ =>
    have waits : d.endTime = none := by simpa using open_
    split at outcome
    · -- All have ended, and none of them is aborted.
      next all =>
      have finished : ∀ task ∈ d.tasks, task = .finished := by simpa using all
      obtain rfl := Option.some.inj outcome
      refine ⟨waits, ?_, .inl finished⟩
      rw [List.map_congr_left (g := id) fun task among => by rw [finished task among]; rfl,
        List.map_id]
    · split at outcome
      · next come =>
        obtain rfl := Option.some.inj outcome
        exact ⟨waits, rfl, .inr come⟩
      · cases outcome

/-- A drain that waits and is not over has a task that has not ended, and time before its
deadline. -/
theorem outcome?_eq_none (outcome : d.outcome? now = none) (waits : d.endTime = none) :
    -- As long as it waits, not all have ended and the deadline is ahead.
    now < d.deadline ∧ ∃ task ∈ d.tasks, task ≠ .finished := by
  have some_ : ¬d.endTime.isSome := by simp [waits]
  unfold outcome? at outcome
  rw [if_neg some_] at outcome
  split at outcome
  · cases outcome
  · next unfinished =>
    split at outcome
    · cases outcome
    · next early => exact ⟨Nat.lt_of_not_le early, by simpa using unfinished⟩

/-- As many are aborted as have not ended. -/
theorem abortedCount_abort (left : List TaskState) :
    abortedCount (left.map TaskState.abort) = left.countP (· != .finished) := by
  -- Of those that are stopped, only the ones that had not finished are counted.
  unfold abortedCount
  rw [List.countP_map]
  refine List.countP_congr fun task _ => ?_
  cases task <;> simp [TaskState.abort]

/-- A drain waits from its call on. -/
theorem isWaiting_start (tag : Nat) {deadline : Nat} (later : called ≤ deadline) :
    IsWaiting called called plans
      ⟨tag, deadline, plans.map (TaskState.start called), none⟩ where
  endTime := rfl
  begun := Nat.le_refl called
  early := later
  tasks := by
    -- Every task starts now, so none is due before this moment.
    rw [List.forall₂_map_right_iff]
    exact List.forall₂_same.mpr fun plan _ => TaskState.isAt_start
  prompt := fun _ => .inl rfl

/-- A step of one of its tasks leaves a drain waiting. -/
theorem IsWaiting.step {told : Bool} (waiting : d.IsWaiting called now plans)
    (found : d.tasks[index]? = some task)
    (steps : task.step? now told = some task') :
    IsWaiting called now plans { d with tasks := d.tasks.set index task' } where
  endTime := waiting.endTime
  begun := waiting.begun
  early := waiting.early
  tasks := forall₂_set waiting.tasks found fun plan known => known.step steps
  prompt := fun finished => by
    -- If all have ended now, this one has just done so, when it was due.
    obtain ⟨among, -⟩ := List.getElem?_eq_some_iff.mp found
    obtain rfl : task' = .finished := finished task' (List.mem_set among task')
    obtain ⟨plan, planned, known⟩ :=
      exists_of_forall₂ waiting.tasks (List.mem_of_getElem? found)
    exact .inr ⟨plan, planned, known.due_of_step steps⟩

/-- Time that passes while nothing can be done leaves a drain waiting. -/
theorem IsWaiting.pass (waiting : d.IsWaiting called now plans)
    (rests : ∀ task ∈ d.tasks, task.step? now true = none) (open_ : d.outcome? now = none)
    (later : now ≤ moment)
    (next : ∀ due ∈ d.deadlines, now < due → moment ≤ due) :
    d.IsWaiting called moment plans := by
  -- Some task is unfinished before the deadline, so nothing is decided while the time passes.
  obtain ⟨early, unfinished, among, others⟩ := outcome?_eq_none open_ waiting.endTime
  have met : d.deadlines = d.deadline :: d.tasks.filterMap TaskState.ends? := by
    simp [deadlines, waiting.endTime]
  rw [met] at next
  refine ⟨waiting.endTime, Nat.le_trans waiting.begun later, next _ List.mem_cons_self early, ?_,
    fun all => ?_⟩
  · -- Each task is met by the time that passes before it is due.
    refine forall₂_imp waiting.tasks fun plan task inside known => ?_
    refine known.pass (rests task inside) later fun due isDue => ?_
    exact next due (List.mem_cons_of_mem _ (List.mem_filterMap.mpr ⟨task, inside, isDue⟩))
  · exact absurd (all unfinished among) others

/-- A drain that waits returns with what has not ended aborted. -/
theorem IsWaiting.finish (waiting : d.IsWaiting called now plans)
    (outcome : d.outcome? now = some tasks) :
    IsOver called now plans d.tasks { d with tasks, endTime := some now } := by
  obtain ⟨-, rfl, isOver⟩ := outcome?_eq_some outcome
  have counted := abortedCount_abort d.tasks
  have none_left : d.tasks.countP (· != .finished) = 0 ↔
      ∀ task ∈ d.tasks, task = .finished := by
    simp [List.countP_eq_zero]
  -- Where one has not ended, the deadline has come.
  have late : (¬∀ task ∈ d.tasks, task = .finished) → now = d.deadline := fun unfinished =>
    Nat.le_antisymm waiting.early (isOver.resolve_left unfinished)
  have each : List.Forall₂ (TaskState.IsEnded called d.deadline now) plans
      (d.tasks.map TaskState.abort) := by
    rw [List.forall₂_map_right_iff]
    refine forall₂_imp waiting.tasks fun plan task inside known => known.abort fun unfinished =>
      late fun all => ?_
    exact unfinished (all task inside)
  refine ⟨rfl, ⟨waiting.begun, waiting.early⟩, rfl, counted, each, fun none_ => ?_,
    fun some_ => late ?_⟩
  · -- All have ended, each when it was due, and the last of them just now.
    have all := none_left.mp (counted ▸ none_)
    refine (TaskPlan.lastDue_eq (fun plan among => ?_) (waiting.prompt all)).symm
    obtain ⟨task, there, known⟩ := exists_of_forall₂ waiting.tasks.flip among
    rw [all task there] at known
    exact known
  · exact fun all => some_ (counted.trans (none_left.mpr all))

/-- No task of a drain that has returned takes a step. -/
theorem IsOver.step {told : Bool} (isOver : d.IsOver called ended plans left)
    (found : d.tasks[index]? = some task) :
    task.step? now told = none := by
  obtain ⟨plan, -, known⟩ := exists_of_forall₂ isOver.each (List.mem_of_getElem? found)
  exact known.step

/-- A drain that has returned does not return again. -/
theorem IsOver.outcome? (isOver : d.IsOver called ended plans left) : d.outcome? now = none := by
  simp [Drain.outcome?, isOver.endTime]

/-- How many steps a drain and its tasks can take yet. -/
def toDo (d : Drain) : Nat := (if d.endTime.isNone then 1 else 0) + workOf TaskState.toDo d.tasks

end Drain

end WatchRelay
