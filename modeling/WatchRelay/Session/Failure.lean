import WatchRelay.Json.Fault
import WatchRelay.Text.Occurs
import WatchRelay.Time.Duration

/-! Why a session ends, which ends are expected, and the close code that tells the client. -/

namespace WatchRelay

/-- The kinds of input and output error that tell a gone peer from other trouble. -/
inductive ErrorKind where
  | connectionReset
  | connectionAborted
  | brokenPipe
  | unexpectedEof
  | other
deriving DecidableEq, Repr

namespace ErrorKind

/-- Whether the kind says that the peer is gone. -/
def isClosure : ErrorKind → Bool
  | .other => false
  | _ => true

end ErrorKind

/-- One error of a chain in which each is the cause of the one before. -/
structure Cause where
  /-- The kind, where the error is one of input or output. -/
  kind : Option ErrorKind
  text : String
deriving DecidableEq, Repr

namespace Cause

/-- Whether an error says that the connection is closed.

Only ASCII letters are compared without case: no other letter has a lower-case form that completes
one of the two phrases. -/
def isClosure (c : Cause) : Bool :=
  c.kind.any ErrorKind.isClosure ||
    (let text := c.text.toList.map Char.toLower
    occursIn "connection closed".toList text || occursIn "closed connection".toList text)

end Cause

/-- Why a session ends. -/
inductive SessionFailure where
  | transport (chain : List Cause)
  | writeTimeout (limit : Duration)
  | livenessTimeout (limit : Duration)
  | malformed (fault : Fault)
  | tooLarge (size limit : Nat)
  | closed
deriving DecidableEq, Repr

namespace SessionFailure

/-- Whether a failure is the normal end of a connection. -/
def isExpected : SessionFailure → Bool
  | .closed => true
  | .transport chain => chain.any Cause.isClosure
  | _ => false

/-- The kind of a failure. -/
def category : SessionFailure → String
  | .transport _ => "transport"
  | .writeTimeout _ => "write_timeout"
  | .livenessTimeout _ => "liveness_timeout"
  | .malformed _ => "malformed_frame"
  | .tooLarge _ _ => "frame_too_large"
  | .closed => "closed"

/-- The wording of a failure. -/
def message : SessionFailure → String
  | .transport chain => "transport error: " ++ (chain.head?.map Cause.text).getD ""
  | .writeTimeout limit => "write did not complete within " ++ limit.describe
  | .livenessTimeout limit => "no client activity within " ++ limit.describe
  | .malformed fault => "malformed control frame: " ++ fault.message
  | .tooLarge size limit =>
    "inbound frame of " ++ String.ofList (decimalChars size) ++ " bytes exceeds limit of " ++
      String.ofList (decimalChars limit)
  | .closed => "session closed"

end SessionFailure

/-- The codes a connection is closed with. -/
inductive CloseCode where
  | normal
  | away
  | policy
  | invalid
  | size
  | error
deriving DecidableEq, Repr

namespace CloseCode

/-- The number of a code. -/
def number : CloseCode → Nat
  | .normal => 1000
  | .away => 1001
  | .invalid => 1007
  | .policy => 1008
  | .size => 1009
  | .error => 1011

/-- The reason given with a code. -/
def reason : CloseCode → String
  | .normal => ""
  | .away => "server shutting down"
  | .size => "message too large"
  | .invalid => "malformed control message"
  | .policy => "client unresponsive"
  | .error => "session error"

/-- The code for a failure. -/
def ofFailure : SessionFailure → CloseCode
  | .tooLarge _ _ => .size
  | .malformed _ => .invalid
  | .livenessTimeout _ => .policy
  | .transport _ | .writeTimeout _ | .closed => .error

end CloseCode

end WatchRelay
