import WatchRelay.Config
import WatchRelay.Connection.KeepAlive
import WatchRelay.Connection.Receiver
import WatchRelay.Session.Runner

/-! A session: one client's connection with everything that works on it. -/

namespace WatchRelay

/-- The life of a session. -/
inductive SessionState where
  | starting
  | running
  | closing
  | closed
deriving DecidableEq, Repr

namespace SessionState

/-- What a state leads to. -/
def next? : SessionState → Option SessionState
  | .starting => some .running
  | .running => some .closing
  | .closing => some .closed
  | .closed => none

/-- Moves on to a state if it is the next one. -/
def advance (s goal : SessionState) : SessionState :=
  if s.next? = some goal then goal else s

/-- The name of a state. -/
def name : SessionState → String
  | .starting => "starting"
  | .running => "running"
  | .closing => "closing"
  | .closed => "closed"

end SessionState

/-- What the event loop of a session is doing. -/
inductive LoopPhase where
  /-- Nobody runs it. -/
  | idle
  | selecting
  /-- It writes an acknowledgment and starts a runner after it, if one is due. -/
  | acknowledging (message : Message) (stage : WriteStage) (start : Option (ResourceKind × String))
  /-- It waits for the runners to stop. -/
  | draining (deadline : Nat)
  | finished (time : Nat)
  /-- It was given up before it ran. -/
  | discarded
deriving DecidableEq, Repr

/-- How far a call that tears a session down has come. -/
inductive TeardownPhase where
  /-- The first call waits for the loops. -/
  | waiting (deadline : Nat)
  | closing (code : CloseCode) (stage : CloseStage)
  /-- A later call waits for the first. -/
  | watching (deadline : Nat)
  | finished
deriving DecidableEq, Repr

/-- A session. -/
structure Session where
  config : Config
  /-- When it started. -/
  startTime : Nat
  credentials : Credentials
  state : SessionState
  /-- Whether the session was told to end. -/
  cancelled : Bool
  closeCode : CloseCode
  outlet : Outlet
  alarms : Alarms
  receiver : Receiver
  keepAlive : KeepAlive
  loop : LoopPhase
  /-- The runner recorded for each kind. -/
  active : PerKind (Option Nat)
  /-- Every runner so far; the number of a runner is its place. -/
  runners : List Runner
  /-- Whether a call has taken on the closing. -/
  tornDown : Bool
  teardowns : List (Nat × TeardownPhase)
deriving Repr

/-- The room of the queue for a session's requests. -/
def Config.queueRoom (c : Config) : Nat := max c.inboundQueue 1

/-- Whether a session can start: there can be a queue with that room. -/
def Config.canStart (c : Config) : Bool := isQueueRoom c.queueRoom

namespace Session

/-- A session that has just started on a connection. -/
def start (config : Config) (credentials : Credentials) (wire : WireState) (now : Nat)
    (cancelled : Bool) : Session where
  config := config
  startTime := now
  credentials := credentials
  state := SessionState.starting.advance .running
  cancelled := cancelled
  closeCode := .normal
  outlet := .new wire config.writeTimeout
  alarms := ⟨[], Alarms.sessionCapacity⟩
  receiver := .new now config.livenessTimeout config.maxMessageSize config.queueRoom
  keepAlive := .new now config.pingInterval
  loop := .selecting
  active := .const none
  runners := []
  tornDown := false
  teardowns := []

/-- What happened on the connection from an entry of its log on, at times since the start. -/
def happenings (s : Session) (first : Nat) : List LogEntry :=
  (s.outlet.log.toList.drop first).map fun x => { x with time := x.time - s.startTime }

/-- Enters closing and tells everything to end. -/
def beginClosing (s : Session) : Session :=
  { s with state := s.state.advance .closing, cancelled := true }

/-- Whether the runner with a number is running. -/
def runs (s : Session) (id : Nat) : Bool := (s.runners[id]?).any Runner.isRunning

/-- Changes the runner with a number. -/
def modifyRunner (s : Session) (id : Nat) (f : Runner → Runner) : Session :=
  { s with runners := s.runners.modify id f }

/-- Tells the runner with a number to stop. -/
def cancelRunner (s : Session) (id : Nat) : Session :=
  s.modifyRunner id fun r => { r with cancelled := true }

/-- Whether the event loop is over. -/
def loopFinished (s : Session) : Bool :=
  match s.loop with
  | .finished _ | .discarded => true
  | _ => false

end Session

end WatchRelay
