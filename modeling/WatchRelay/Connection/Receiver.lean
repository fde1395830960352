import WatchRelay.Session.Failure
import WatchRelay.Text.Utf8
import WatchRelay.Wire.Request

/-! The read side of a connection: frames become requests, in order, through a bounded queue. -/

namespace WatchRelay

/-- What the read half of a connection yields. -/
inductive InFrame where
  | text (text : String)
  | binary (bytes : List UInt8)
  | ping
  | pong
  | close
  | failure (chain : List Cause)
deriving DecidableEq, Repr

/-- How receiving ended. -/
inductive ReceiveEnd where
  | peerClosed
  | cancelled
  | failed
deriving DecidableEq, Repr

/-- What the receiver is doing. -/
inductive ReceivePhase where
  /-- It waits for a frame until the client counts as gone. -/
  | reading (deadline : Nat)
  /-- It waits for room in the queue. -/
  | handing (request : Request)
  | finished (result : ReceiveEnd)
  | aborted
deriving DecidableEq, Repr

/-- The receiver of one connection. -/
structure Receiver where
  phase : ReceivePhase
  /-- Frames that have arrived and are not read yet. -/
  arrived : List InFrame
  /-- Whether the client's stream has ended behind them. -/
  ended : Bool
  /-- Requests that are handed on and not yet taken. -/
  queue : List Request
  capacity : Nat
  /-- Whether anyone takes requests. -/
  taken : Bool
  /-- How long the client may be silent, in milliseconds. -/
  liveness : Nat
  maxMessageSize : Nat
deriving Repr

namespace Receiver

/-- The receiver of a new connection. -/
def new (now liveness maxMessageSize capacity : Nat) : Receiver :=
  ⟨.reading (now + liveness), [], false, [], capacity, true, liveness, maxMessageSize⟩

/-- Whether the receiver is at work. -/
def isRunning (r : Receiver) : Bool :=
  match r.phase with
  | .reading _ | .handing _ => true
  | .finished _ | .aborted => false

/-- The request of a text, unless it is too long or malformed. -/
def decode (maxMessageSize : Nat) (text : String) : Except SessionFailure Request :=
  if maxMessageSize < text.utf8ByteSize then .error (.tooLarge text.utf8ByteSize maxMessageSize)
  else (Request.parse text).mapError .malformed

/-- What a frame means. -/
inductive Meaning where
  | request (request : Request)
  | activity
  | goodbye
  | fault (failure : SessionFailure)

/-- The meaning of a frame; bytes are read as text. -/
def meaning (maxMessageSize : Nat) : InFrame → Meaning
  | .text text => ofDecoded (decode maxMessageSize text)
  | .binary bytes =>
    match Utf8.decode bytes with
    | .ok text => ofDecoded (decode maxMessageSize text)
    | .error f => .fault (.transport [⟨none, f.message⟩])
  | .ping | .pong => .activity
  | .close => .goodbye
  | .failure chain => .fault (.transport chain)
where
  ofDecoded : Except SessionFailure Request → Meaning
    | .ok request => .request request
    | .error f => .fault f

/-- Stops receiving; what arrived and was not read is let go. -/
def finish (r : Receiver) (result : ReceiveEnd) : Receiver :=
  { r with phase := .finished result, arrived := [] }

/-- Stops receiving with a failure; an expected one counts as the client's goodbye. -/
def fail (r : Receiver) (f : SessionFailure) : Receiver × Option SessionFailure :=
  (r.finish (if f.isExpected then .peerClosed else .failed), some f)

/-- Waits for the next frame. -/
def await (r : Receiver) (now : Nat) : Receiver := { r with phase := .reading (now + r.liveness) }

/-- One step of receiving, or none while there is nothing to do; with a failure to report. -/
def step (r : Receiver) (now : Nat) (cancelled : Bool) :
    Option (Receiver × Option SessionFailure) :=
  match r.phase with
  | .reading deadline =>
    if cancelled then some (r.finish .cancelled, none)
    else
      match r.arrived with
      | frame :: rest =>
        let r := { r with arrived := rest }
        match meaning r.maxMessageSize frame with
        | .request request => some ({ r with phase := .handing request }, none)
        | .activity => some (r.await now, none)
        | .goodbye => some (r.finish .peerClosed, none)
        | .fault f => some (r.fail f)
      | [] =>
        if r.ended then some (r.finish .peerClosed, none)
        else if deadline ≤ now then some (r.fail (.livenessTimeout (.ofMillis r.liveness)))
        else none
  | .handing request =>
    if cancelled || !r.taken then some (r.finish .cancelled, none)
    else if r.queue.length < r.capacity then
      some ({ r.await now with queue := r.queue ++ [request] }, none)
    else none
  | .finished _ | .aborted => none

/-- When the receiver loses patience. -/
def deadline? (r : Receiver) : Option Nat :=
  match r.phase with
  | .reading d => some d
  | _ => none

/-- A frame arrives, if anyone still reads. -/
def arrive (r : Receiver) (frame : InFrame) : Receiver :=
  if r.isRunning && !r.ended then { r with arrived := r.arrived ++ [frame] } else r

/-- The client's stream ends. -/
def hangUp (r : Receiver) : Receiver := { r with ended := true }

/-- Takes the first request. -/
def take? (r : Receiver) : Option (Request × Receiver) :=
  match r.queue with
  | request :: rest => some (request, { r with queue := rest })
  | [] => none

/-- Nobody takes requests any more. -/
def close (r : Receiver) : Receiver := { r with taken := false, queue := [] }

/-- Stops the receiver from outside. -/
def abort (r : Receiver) : Receiver :=
  if r.isRunning then { r with phase := .aborted, arrived := [] } else r

end Receiver

end WatchRelay
