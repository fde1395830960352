import WatchRelay.Time.Clocked

/-! Lifetimes and draining: shutdown ends every lifetime, and a drain waits for tasks up to a
deadline. -/

namespace WatchRelay

/-- How a task that is drained ends. -/
inductive TaskPlan where
  /-- It waits until its lifetime ends and takes so many milliseconds more. -/
  | cooperative (ms : Nat)
  /-- It takes so many milliseconds. -/
  | sleep (ms : Nat)
  | stuck
  /-- It breaks down at once. -/
  | crash
  /-- It has ended by then. -/
  | done
deriving DecidableEq, Repr

/-- How far a task is. -/
inductive TaskState where
  /-- It waits until its lifetime ends, and takes so many milliseconds from then on. -/
  | waiting (ms : Nat)
  /-- It runs up to some time, or for ever. -/
  | running (ends : Option Nat)
  /-- It has ended by itself, be it in a breakdown. -/
  | finished
  | aborted
deriving DecidableEq, Repr

namespace TaskState

/-- A task at the time at which it is handed over to be drained. -/
def start (now : Nat) : TaskPlan → TaskState
  | .cooperative ms => .waiting ms
  | .sleep ms => .running (some (now + ms))
  | .stuck => .running none
  | .crash => .running (some now)
  | .done => .finished

/-- The next step of a task, if it has one at that time and with its lifetime ended or not. -/
def step? (now : Nat) (lifetimeEnded : Bool) : TaskState → Option TaskState
  | .waiting ms => if lifetimeEnded then some (.running (some (now + ms))) else none
  | .running (some ends) => if ends ≤ now then some .finished else none
  | .running none | .finished | .aborted => none

/-- A task that is aborted unless it has ended. -/
def abort : TaskState → TaskState
  | .finished => .finished
  | .waiting _ | .running _ | .aborted => .aborted

/-- When a task that runs is due to end. -/
def ends? : TaskState → Option Nat
  | .running ends => ends
  | .waiting _ | .finished | .aborted => none

end TaskState

/-- A call that waits for tasks. -/
structure Drain where
  /-- What the caller knows it by. -/
  tag : Nat
  deadline : Nat
  tasks : List TaskState
  /-- When it returned. -/
  endTime : Option Nat
deriving DecidableEq, Repr

namespace Drain

/-- How long a drain waits where nothing is said, in milliseconds. -/
def defaultTimeout : Nat := 10000

/-- What has become of the tasks, if a drain that waits is over: all have ended, or the deadline has
come and the others are aborted. -/
def outcome? (d : Drain) (now : Nat) : Option (List TaskState) :=
  if d.endTime.isSome then none
  else if d.tasks.all (· == .finished) then some d.tasks
  else if d.deadline ≤ now then some (d.tasks.map TaskState.abort)
  else none

/-- How many tasks were aborted. -/
def abortedCount (tasks : List TaskState) : Nat := tasks.countP (· == .aborted)

/-- The times at which something is due in a drain that waits. -/
def deadlines (d : Drain) : List Nat :=
  if d.endTime.isSome then [] else d.deadline :: d.tasks.filterMap TaskState.ends?

end Drain

/-- What a call on the lifetimes returned: that shutdown was requested, or how many tasks a drain
aborted. -/
structure LifetimeReturn where
  tag : Nat
  aborted : Option Nat
  time : Nat
deriving DecidableEq, Repr

/-- The lifetimes of a relay's sessions under the one of the relay itself. -/
structure Lifetimes where
  now : Nat
  /-- Whether shutdown was requested. -/
  shuttingDown : Bool
  /-- For each lifetime, whether it was cancelled on its own. -/
  cancelled : List Bool
  /-- The calls that wait for shutdown to be requested. -/
  waiting : List Nat
  drains : List Drain
  returned : Array LifetimeReturn
deriving Repr

namespace Lifetimes

/-- No lifetimes at the start of time. -/
def start : Lifetimes := ⟨0, false, [], [], [], #[]⟩

/-- Starts a lifetime. -/
def add (l : Lifetimes) : Lifetimes := { l with cancelled := l.cancelled ++ [false] }

/-- Whether each lifetime has ended, by itself or with the relay. -/
def ended (l : Lifetimes) : List Bool := l.cancelled.map (· || l.shuttingDown)

/-- Ends one lifetime. -/
def cancel (l : Lifetimes) (index : Nat) : Lifetimes :=
  { l with cancelled := l.cancelled.set index true }

/-- Requests shutdown. -/
def shutdown (l : Lifetimes) : Lifetimes := { l with shuttingDown := true }

/-- A call that waits for shutdown to be requested. -/
def awaitRequest (l : Lifetimes) (tag : Nat) : Lifetimes := { l with waiting := l.waiting ++ [tag] }

/-- Requests shutdown and waits for tasks. -/
def drain (l : Lifetimes) (tag : Nat) (timeout : Option Nat) (plans : List TaskPlan) : Lifetimes :=
  let deadline := l.now + timeout.getD Drain.defaultTimeout
  { l.shutdown with
    drains := l.drains ++ [⟨tag, deadline, plans.map (TaskState.start l.now), none⟩] }

/-- A call returns. -/
def giveBack (l : Lifetimes) (tag : Nat) (aborted : Option Nat) : Lifetimes :=
  { l with returned := l.returned.push ⟨tag, aborted, l.now⟩ }

/-- Whose turn it is. -/
inductive Turn where
  /-- The first call that waits for shutdown to be requested. -/
  | tell
  /-- A task of a drain. -/
  | task (drain index : Nat)
  /-- The drain itself. -/
  | finish (drain : Nat)
deriving DecidableEq, Repr

/-- Takes a turn, if something can be done in it. -/
def turn (l : Lifetimes) : Turn → Option Lifetimes
  | .tell =>
    match l.waiting, l.shuttingDown with
    | tag :: rest, true => some ({ l with waiting := rest }.giveBack tag none)
    | _, _ => none
  | .task drain index => do
    let d ← l.drains[drain]?
    let task ← d.tasks[index]?
    let task ← task.step? l.now l.shuttingDown
    some { l with drains := l.drains.set drain { d with tasks := d.tasks.set index task } }
  | .finish drain => do
    let d ← l.drains[drain]?
    let tasks ← d.outcome? l.now
    let ended := { d with tasks, endTime := some l.now }
    some ({ l with drains := l.drains.set drain ended }.giveBack d.tag
      (some (Drain.abortedCount tasks)))

/-- Every turn there is: the calls that wait, the tasks, and then the drains. -/
def turns (l : Lifetimes) : List Turn :=
  .tell ::
    (l.drains.zipIdx.flatMap fun (d, drain) => (List.range d.tasks.length).map (.task drain)) ++
    (List.range l.drains.length).map .finish

/-- Takes the first turn in which something can be done, or none while all have to wait. -/
def step (l : Lifetimes) : Option Lifetimes := l.turns.findSome? l.turn

/-- The times at which something is due. -/
def deadlines (l : Lifetimes) : List Nat := l.drains.flatMap Drain.deadlines

instance : Clocked Lifetimes where
  now := Lifetimes.now
  setTime l now := { l with now }
  step := Lifetimes.step
  deadlines := Lifetimes.deadlines

end Lifetimes

end WatchRelay
