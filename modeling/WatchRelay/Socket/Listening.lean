import WatchRelay.Socket.Gateway

/-! Listening: a server binds its address on a machine, and answers there until shutdown is
requested. -/

namespace WatchRelay

/-- Why an address cannot be bound. -/
inductive BindFault where
  /-- Somebody listens there, or nothing is left where any port would do. -/
  | inUse
  /-- The machine has no such address. -/
  | unavailable
deriving DecidableEq, Repr

namespace BindFault

/-- The name of a fault. -/
def name : BindFault → String
  | .inUse => "AddrInUse"
  | .unavailable => "AddrNotAvailable"

end BindFault

/-- The addresses of a machine. -/
structure Network where
  /-- The hosts it has, as they are written in an address. -/
  hosts : List String
  /-- Where somebody listens. -/
  taken : List (String × Nat)
deriving DecidableEq, Repr

namespace Network

/-- A machine without a network. -/
def missing : Network := ⟨[], []⟩

/-- The ports that are given where any will do. -/
def spare : List Nat := List.range' 32768 28232

/-- The port that an address asks for, or one that nobody has where any will do. -/
def port? (n : Network) (host : String) (port : Nat) : Option Nat :=
  if port = 0 then spare.find? fun p => !n.taken.contains (host, p)
  else if n.taken.contains (host, port) then none
  else some port

/-- Binds an address, and gives its port. -/
def bind (n : Network) (host : String) (port : Nat) : Except BindFault (Nat × Network) :=
  if n.hosts.contains host then
    match n.port? host port with
    | some port => .ok (port, { n with taken := (host, port) :: n.taken })
    | none => .error .inUse
  else .error .unavailable

end Network

/-- A server that listens: its gateway, and where it is found. -/
structure Listening where
  gateway : Gateway
  host : String
  port : Nat

namespace Listening

/-- A gateway binds the address of its configuration and listens there. -/
def start (g : Gateway) (n : Network) : Except BindFault (Listening × Network) := do
  let (port, n) ← n.bind g.relay.config.host g.relay.config.port
  .ok (⟨g, g.relay.config.host, port⟩, n)

/-- Answers a plain request for a target, unless shutdown was requested or the target is
malformed. -/
def visit (l : Listening) (target : String) : Option (HttpResponse × Listening) :=
  if l.gateway.relay.shuttingDown then none
  else
    (HttpRequest.make? "GET" target [("Host", l.host)] [] false).map fun r =>
      let (response, gateway) := l.gateway.answer r
      (response, { l with gateway })

/-- Requests shutdown; nothing is answered from then on. -/
def shutdown (l : Listening) : Listening := { l with gateway := l.gateway.shutdown }

/-- The addresses of the machine once a server has stopped. -/
def release (l : Listening) (n : Network) : Network :=
  { n with taken := n.taken.erase (l.host, l.port) }

end Listening

namespace HttpResponse

/-- The words beside a status. -/
def reason : Nat → String
  | 101 => "Switching Protocols"
  | 200 => "OK"
  | 201 => "Created"
  | 400 => "Bad Request"
  | 404 => "Not Found"
  | 405 => "Method Not Allowed"
  | 413 => "Payload Too Large"
  | 415 => "Unsupported Media Type"
  | 426 => "Upgrade Required"
  | _ => ""

/-- The first line of a response. -/
def statusLine (r : HttpResponse) : String :=
  "HTTP/1.1 " ++ toString r.status ++ " " ++ reason r.status

end HttpResponse

end WatchRelay
