import WatchRelay.Proofs.Clocked
import WatchRelay.Proofs.Relay.Run
import WatchRelay.Relay.Schedule

/-! The schedule of a relay is one of its runs: whatever it does, tasks and calls do one after the
other, and time passes. What holds along every run so holds of a relay that is let run. -/

namespace WatchRelay

namespace Relay

variable {r r' : Relay}

/-- What is done for one after the other is a run if each part is. -/
theorem Reaches.foldl {α : Type} {f : Bool × Relay → α → Bool × Relay}
    (each : ∀ p x, Reaches p.2 (f p x).2) (items : List α) (p : Bool × Relay) :
    Reaches p.2 (items.foldl f p).2 := by
  -- Each step of the fold leads on from where the one before has led.
  induction items generalizing p with
  | nil => exact .refl _
  | cons x rest ih => exact (each p x).trans (ih (f p x))

/-- A step of a task is a move in its session. -/
theorem step_eq_move (r : Relay) (name : String) (task : Session.Task) :
    r.step name task = r.move (.session name (.task task)) := rfl

/-- A task that runs until it has to wait makes a run, with the calls that return on the way. -/
theorem runTask_reaches (name : String) (task : Session.Task) (fuel : Nat) (r : Relay) :
    r.Reaches (runTask name task fuel r).2 := by
  -- The task is moved until it cannot go on, or the fuel is used up.
  induction fuel generalizing r with
  | zero => exact .refl r
  | succ fuel ih =>
    unfold runTask
    split
    · exact .refl r
    · next next moved =>
      have acts : r.Reaches next := .of_move (m := .session name (.task task)) moved rfl
      have returns : next.Reaches next.returnCalls := .of_move (m := .returnCalls) rfl rfl
      exact acts.trans (returns.trans (ih _))

/-- Tasks that run in turn make a run. -/
theorem runTasks_reaches (name : String) (tasks : List Session.Task) (r : Relay) :
    r.Reaches (runTasks name tasks r).2 := by
  refine .foldl (fun p task => ?_) tasks (false, r)
  exact runTask_reaches name task Clocked.patience p.2

/-- The tasks of a session run one after the other: its calls, its loops, and its runners by
then. -/
theorem runSession_reaches (r : Relay) (name : String) : r.Reaches (runSession r name).2 := by
  -- The tasks of the session are run one kind after the other.
  unfold runSession
  exact (runTasks_reaches name _ r).trans
    ((runTasks_reaches name _ _).trans (runTasks_reaches name _ _))

/-- The task that attends a session takes a step, if it can. -/
theorem runAttendance_reaches (r : Relay) (name : String) : r.Reaches (runAttendance r name).2 := by
  -- The task that serves the session goes on by a move of its own, or not at all.
  unfold runAttendance
  split
  · exact .refl r
  · next attended => exact .of_move (m := .attend name) attended rfl

/-- Every pass over all tasks is a run. -/
theorem pass_reaches (passed : r.pass = some r') : r.Reaches r' := by
  -- A pass runs every session once, along with the task that serves it.
  unfold pass at passed
  dsimp only at passed
  split at passed
  · obtain rfl := Option.some.inj passed
    refine .foldl (fun p name => ?_) (r.sessions.map (·.name)) (false, r)
    exact (runSession_reaches p.2 name).trans (runAttendance_reaches _ name)
  · cases passed

/-- A relay that is let run for some time makes a run. -/
theorem advance_reaches (r : Relay) (ms : Nat) : r.Reaches (Clocked.advance r ms) := by
  -- What is reached is kept by a pass and by the passing of time.
  refine Clocked.advance_keeps (P := r.Reaches) (fun moved reached => ?_) (fun moment reached => ?_)
    ms (.refl r)
  · exact reached.trans (pass_reaches moved)
  · exact reached.trans (.of_move (m := .outside _) rfl rfl)

/-- A relay that is let run until all have to wait makes a run. -/
theorem settle_reaches (r : Relay) : r.Reaches r.settle := by
  -- What is reached is kept by each pass, and by the returning before them.
  refine Clocked.settleWithin_keeps (P := r.Reaches) (fun moved reached => ?_) _ ?_
  · exact reached.trans (pass_reaches moved)
  · exact .of_move (m := .returnCalls) rfl rfl

end Relay

end WatchRelay
