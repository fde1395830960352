import WatchRelay.Relay.Basic
import WatchRelay.Time.Clocked

/-! Running the relay: the tasks of each session run in turn, each until it has to wait. -/

namespace WatchRelay

namespace Relay

/-- Runs a task until it has to wait, at most as many steps as the fuel; tells whether it moved. -/
def runTask (name : String) (task : Session.Task) : Nat → Relay → Bool × Relay
  | 0, r => (false, r)
  | fuel + 1, r =>
    match r.step name task with
    | none => (false, r)
    | some r => (true, (runTask name task fuel r.returnCalls).2)

/-- Runs tasks of one session in turn. -/
def runTasks (name : String) (tasks : List Session.Task) (r : Relay) : Bool × Relay :=
  tasks.foldl (fun (moved, r) task =>
    let (more, r) := runTask name task Clocked.patience r
    (moved || more, r)) (false, r)

/-- Runs the calls that tear a session down, its loops, and the runners it has after that.

A call without patience gives up before it lets the loops move. -/
def runSession (r : Relay) (name : String) : Bool × Relay :=
  let tasks (r : Relay) (list : Session → List Session.Task) : List Session.Task :=
    ((r.session? name).map list).getD []
  let (calls, r) := runTasks name (tasks r Session.teardownTasks) r
  let (loops, r) := runTasks name Session.Task.loops r
  let (runners, r) := runTasks name (tasks r Session.runnerTasks) r
  (calls || loops || runners, r)

/-- Runs the task that attends a session. -/
def runAttendance (r : Relay) (name : String) : Bool × Relay :=
  match (r.sessions.find? fun a => a.name == name).bind r.attend with
  | none => (false, r)
  | some r => (true, r)

/-- Runs every task of every session once in turn, or none while all have to wait. -/
def pass (r : Relay) : Option Relay :=
  let (moved, r) := (r.sessions.map (·.name)).foldl (fun (moved, r) name =>
    let (first, r) := runSession r name
    let (second, r) := runAttendance r name
    (moved || first || second, r)) (false, r)
  if moved then some r else none

instance : Clocked Relay where
  now r := r.env.now
  setTime r now := { r with env := { r.env with now } }
  step := Relay.pass
  deadlines r := r.sessions.flatMap (fun a => a.session.deadlines) ++ r.env.source.backend.deadlines

/-- Runs everything until all tasks wait. -/
def settle (r : Relay) : Relay := Clocked.settle r.returnCalls

end Relay

end WatchRelay
