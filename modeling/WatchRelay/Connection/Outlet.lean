import WatchRelay.Session.Failure
import WatchRelay.Wire.Message

/-! The write side of a connection: one writer at a time, in the order of asking, each bounded in
time; the first write that fails ends all writing. -/

namespace WatchRelay

/-- The code and reason of a close frame. -/
structure CloseFrame where
  code : Nat
  reason : String
deriving DecidableEq, Repr

/-- A frame the relay writes. -/
inductive OutFrame where
  | message (message : Message)
  | ping
  | close (frame : Option CloseFrame)
deriving DecidableEq, Repr

/-- Who writes on a connection. -/
inductive Writer where
  | eventLoop
  | keepAlive
  | runner (id : Nat)
  | call (id : Nat)
deriving DecidableEq, Repr

/-- What happens on the write side of a connection. -/
inductive Happening where
  /-- The transport took a frame. -/
  | frame (frame : OutFrame) (writer : Writer)
  /-- The connection was closed in order. -/
  | ended
  /-- The write half was let go. -/
  | dropped
deriving DecidableEq, Repr

/-- Something that happened on a connection, and when. -/
structure LogEntry where
  time : Nat
  happening : Happening
deriving DecidableEq, Repr

/-- How the transport behaves. -/
inductive WireMode where
  | ok
  | stall
  | fail (chain : List Cause)
deriving DecidableEq, Repr

/-- Where in a write the transport misbehaves: before it takes the frame, after that, or when the
connection is closed. -/
inductive WirePlace where
  | ready
  | flush
  | close
deriving DecidableEq, Repr

/-- The behaviour of the transport. -/
structure WireState where
  mode : WireMode
  place : WirePlace
deriving DecidableEq, Repr

namespace WireState

/-- A transport that takes everything at once. -/
def clear : WireState := ⟨.ok, .ready⟩

/-- The behaviour at a place. -/
def behaviour (w : WireState) (place : WirePlace) : WireMode :=
  if w.place = place then w.mode else .ok

end WireState

/-- How far a write has come; deadlines are set when the writer's turn comes. -/
inductive WriteStage where
  | queued
  | sending (deadline : Nat)
  | flushing (deadline : Nat)
deriving DecidableEq, Repr

/-- How far closing has come. -/
inductive CloseStage where
  | queued
  | sending (deadline : Nat)
  | flushing (deadline : Nat)
  | ending (deadline : Nat)
deriving DecidableEq, Repr

/-- What a step of a write or of closing leads to. -/
inductive StepResult (stage : Type) where
  | on (stage : stage)
  /-- The call returns, perhaps after a failure. -/
  | done (result : Bool) (failure : Option SessionFailure)
deriving Repr

/-- The write side of one connection. -/
structure Outlet where
  /-- Whether the write half is still there. -/
  writable : Bool
  /-- Who waits for the write half; the first has it. -/
  line : List Writer
  wire : WireState
  log : Array LogEntry
  /-- How long one write may take, in milliseconds. -/
  limit : Nat
deriving Repr

namespace Outlet

/-- The write side of a new connection. -/
def new (wire : WireState) (limit : Nat) : Outlet := ⟨true, [], wire, #[], limit⟩

/-- Gets in line. -/
def join (o : Outlet) (w : Writer) : Outlet := { o with line := o.line ++ [w] }

/-- Leaves the line, or gives the turn to the next. -/
def leave (o : Outlet) (w : Writer) : Outlet := { o with line := o.line.erase w }

/-- Whether it is a writer's turn. -/
def hasTurn (o : Outlet) (w : Writer) : Bool := o.line.head? == some w

/-- Notes that something happened. -/
def note (o : Outlet) (now : Nat) (happening : Happening) : Outlet :=
  { o with log := o.log.push ⟨now, happening⟩ }

/-- Lets the write half go. -/
def discard (o : Outlet) (now : Nat) : Outlet := { o.note now .dropped with writable := false }

/-- The failure of a write that took too long. -/
def timeout (o : Outlet) : SessionFailure := .writeTimeout (.ofMillis o.limit)

/-- Ends a write with a failure: the write half is let go, then the turn. -/
def failWrite (o : Outlet) (now : Nat) (w : Writer) (f : SessionFailure) :
    Outlet × StepResult WriteStage :=
  ((o.discard now).leave w, .done false (some f))

/-- One step of writing a frame, or none while it has to wait. -/
def stepWrite (o : Outlet) (now : Nat) (w : Writer) (frame : OutFrame) :
    WriteStage → Option (Outlet × StepResult WriteStage)
  | .queued =>
    if o.hasTurn w then
      if o.writable then some (o, .on (.sending (now + o.limit)))
      else some (o.leave w, .done false none)
    else none
  | .sending deadline =>
    match o.wire.behaviour .ready with
    | .ok => some (o.note now (.frame frame w), .on (.flushing deadline))
    | .fail chain => some (o.failWrite now w (.transport chain))
    | .stall => if deadline ≤ now then some (o.failWrite now w o.timeout) else none
  | .flushing deadline =>
    match o.wire.behaviour .flush with
    | .ok => some (o.leave w, .done true none)
    | .fail chain => some (o.failWrite now w (.transport chain))
    | .stall => if deadline ≤ now then some (o.failWrite now w o.timeout) else none

/-- One step of closing, or none while it has to wait.

The write half is taken, the turn is given on at once, and failures do not matter any more. -/
def stepClose (o : Outlet) (now : Nat) (w : Writer) (frame : Option CloseFrame) :
    CloseStage → Option (Outlet × StepResult CloseStage)
  | .queued =>
    if o.hasTurn w then
      if o.writable then
        some ({ o.leave w with writable := false }, .on (.sending (now + o.limit)))
      else some (o.leave w, .done false none)
    else none
  | .sending deadline =>
    match o.wire.behaviour .ready with
    | .ok => some (o.note now (.frame (.close frame) w), .on (.flushing deadline))
    | .fail _ => some (o.note now .dropped, .done true none)
    | .stall => if deadline ≤ now then some (o.note now .dropped, .done true none) else none
  | .flushing deadline =>
    match o.wire.behaviour .flush with
    | .ok => some (o, .on (.ending deadline))
    | .fail _ => some (o.note now .dropped, .done true none)
    | .stall => if deadline ≤ now then some (o.note now .dropped, .done true none) else none
  | .ending deadline =>
    match o.wire.behaviour .close with
    | .ok => some ((o.note now .ended).note now .dropped, .done true none)
    | .fail _ => some (o.note now .dropped, .done true none)
    | .stall => if deadline ≤ now then some (o.note now .dropped, .done true none) else none

/-- Asks whether the write half is gone, or none while it is another's turn. -/
def stepAsk (o : Outlet) (w : Writer) : Option (Outlet × Bool) :=
  if o.hasTurn w then some (o.leave w, !o.writable) else none

end Outlet

namespace WriteStage

/-- When a write runs out of time. -/
def deadline? : WriteStage → Option Nat
  | .queued => none
  | .sending d | .flushing d => some d

end WriteStage

namespace CloseStage

/-- When closing runs out of time. -/
def deadline? : CloseStage → Option Nat
  | .queued => none
  | .sending d | .flushing d | .ending d => some d

end CloseStage

/-- The most entries a queue between two tasks can have room for. -/
def maxQueueRoom : Nat := Nat.pow 2 61 - 1

/-- Whether a queue between two tasks can have room for so many entries. -/
def isQueueRoom (room : Nat) : Bool := 0 < room && room ≤ maxQueueRoom

/-- The failures that are reported and not yet seen; a full queue drops more of them. -/
structure Alarms where
  queue : List SessionFailure
  capacity : Nat
deriving Repr

namespace Alarms

/-- How many failures of a session are kept. -/
def sessionCapacity : Nat := 4

/-- Reports a failure, unless it is the normal end of a connection. -/
def report (a : Alarms) (f : SessionFailure) : Alarms :=
  if f.isExpected then a
  else if a.queue.length < a.capacity then { a with queue := a.queue ++ [f] }
  else a

/-- Reports a failure if there is one. -/
def reportAny (a : Alarms) (f : Option SessionFailure) : Alarms :=
  match f with
  | some f => a.report f
  | none => a

end Alarms

end WatchRelay
