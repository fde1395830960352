import WatchRelay.Http.Service
import WatchRelay.Relay.Schedule
import WatchRelay.Socket.Client

/-! The relay behind its site: requests are answered, and clients connect over WebSockets. -/

namespace WatchRelay

/-- The relay, its site and its clients. -/
structure Gateway where
  site : Site
  relay : Relay
  clients : List Client
  /-- How many sessions have been started. -/
  started : Nat
  /-- When the server had stopped and every session was torn down. -/
  stopTime : Option Nat

/-- Why a client could not connect. -/
inductive ConnectFault where
  /-- The request was answered otherwise, with a status. -/
  | answered (status : Nat)
  /-- Nobody answered. -/
  | noAnswer
  /-- The request cannot be written. -/
  | malformed
deriving DecidableEq, Repr

namespace Gateway

/-- A gateway without clients. -/
def new (site : Site) (config : Config) (hub : Hub) : Gateway :=
  ⟨site, .new config (.of (.catalog hub)), [], 0, none⟩

/-- The catalog. -/
def hub (g : Gateway) : Hub :=
  match g.relay.env.source.backend with
  | .catalog hub => hub
  | .played _ => .empty 1 false

/-- Replaces the catalog. -/
def setHub (g : Gateway) (hub : Hub) : Gateway :=
  { g with relay := g.relay.setBackend (.catalog hub) }

/-- The health that the site tells. -/
def health (g : Gateway) : Health := ⟨0, g.relay.registered.length⟩

/-- Answers a request. -/
def answer (g : Gateway) (r : HttpRequest) : HttpResponse × Gateway :=
  let (response, hub) := g.site.answer g.hub g.health r
  (response, g.setHub hub)

/-- Changes the client with a name. -/
def modifyClient (g : Gateway) (name : String) (f : Client → Client) : Gateway :=
  { g with clients := g.clients.map fun c => if c.name = name then f c else c }

/-- The client with a name. -/
def client? (g : Gateway) (name : String) : Option Client := g.clients.find? fun c => c.name == name

/-- Changes the session of a client. -/
def modifySession (g : Gateway) (c : Client) (f : Session → Session) : Gateway :=
  { g with relay := g.relay.modifySession c.session f }

/-- A client's frames arrive. -/
def arrive (g : Gateway) (c : Client) (frames : List InFrame) : Gateway :=
  g.modifySession c fun s => { s with receiver := frames.foldl Receiver.arrive s.receiver }

/-- From now on everything the session of a client writes fails. -/
def breakWrites (g : Gateway) (c : Client) (cause : Cause) : Gateway :=
  g.modifySession c fun s =>
    { s with outlet := { s.outlet with wire := ⟨.fail [cause], .ready⟩ } }

/-- Cuts the socket of a client, who is gone. -/
def drop (g : Gateway) (c : Client) : Gateway :=
  let reset : Cause :=
    ⟨none, "WebSocket protocol error: Connection reset without closing handshake"⟩
  let g := (g.arrive c [.failure [reset]]).breakWrites c ⟨some .brokenPipe, "broken pipe"⟩
  { g with clients := g.clients.filter fun x => x.name != c.name }

/-- What a client asks with to connect; blanks around a value are not part of it. -/
def connectRequest? (path : String) (headers : List (String × String)) : Option HttpRequest :=
  let handshake := [("Connection", "Upgrade"), ("Upgrade", "websocket"),
    ("Sec-WebSocket-Version", "13"), ("Sec-WebSocket-Key", "dGhlIHNhbXBsZSBub25jZQ==")]
  HttpRequest.make? "GET" path (headers.map (fun h => (h.1, trimBlank h.2)) ++ handshake) [] true

/-- Starts the session of a client whose request was accepted.

It is registered and attended; where it cannot start, the socket is cut. -/
def welcome (g : Gateway) (name : String) (r : HttpRequest) : Gateway :=
  let session := toString g.started
  let client := Client.new name session
  match g.relay.start? session (Credentials.ofLookup r.visibleHeader?) .clear .attending id with
  | some relay =>
    { g with
      relay := relay.register session
      started := g.started + 1
      clients := g.clients ++ [client] }
  | none => { g with clients := g.clients ++ [{ client with cut := true, incoming := [.ended] }] }

/-- A client connects; one of the same name is gone with that. -/
def connect (g : Gateway) (name path : String) (headers : List (String × String)) :
    Except ConnectFault Gateway :=
  match connectRequest? path headers with
  | none => .error .malformed
  | some r =>
    if g.relay.shuttingDown then .error .noAnswer
    else
      let (response, g) := g.answer r
      if response.status ≠ 101 then .error (.answered response.status)
      else
        match g.client? name with
        | some c => .ok ((g.drop c).welcome name r)
        | none => .ok (g.welcome name r)

/-- The most bytes a ping, a pong or the reason of a close frame with its code may have. -/
def maxControlSize : Nat := 125

/-- A client sends a message, which the socket refuses if it is too long. -/
def sendMessage (g : Gateway) (c : Client) (size : Nat) (frame : InFrame) : Bool × Gateway :=
  if !c.canSend then (false, g)
  else if g.relay.config.maxMessageSize < size then
    let text := "Space limit exceeded: Message too long: " ++ toString size ++ " > " ++
      toString g.relay.config.maxMessageSize
    (true, g.arrive c [.failure [⟨none, text⟩]])
  else (true, g.arrive c [frame])

/-- The failure of a ping, a pong or a close frame that is too long. -/
def longControl : InFrame :=
  .failure
    [⟨none,
    "WebSocket protocol error: Control frame too big (payload must be 125 bytes or less)"⟩]

/-- A client sends a ping, which a session that reads answers. -/
def sendPing (g : Gateway) (c : Client) (length : Nat) : Bool × Gateway :=
  if !c.canSend then (false, g)
  else if maxControlSize < length then (true, g.arrive c [longControl])
  else
    let answered := (g.relay.session? c.session).any fun s => s.receiver.isRunning
    let g := g.arrive c [.ping]
    (true, if answered then g.modifyClient c.name fun c =>
        { c with incoming := c.incoming ++ [.pong length] }
      else g)

/-- A client sends a pong. -/
def sendPong (g : Gateway) (c : Client) (length : Nat) : Bool × Gateway :=
  if !c.canSend then (false, g)
  else (true, g.arrive c [if maxControlSize < length then longControl else .pong])

/-- A client sends a close frame; nothing can be written to it after that. -/
def sendClose (g : Gateway) (c : Client) (frame : Option CloseFrame) : Bool × Gateway :=
  if !c.canSend then (false, g)
  else
    let size := match frame with
      | some f => 2 + f.reason.utf8ByteSize
      | none => 0
    let closed : Cause :=
      ⟨none, "WebSocket protocol error: Sending after closing is not allowed"⟩
    let g := if maxControlSize < size then g.arrive c [longControl]
      else (g.arrive c [.close]).breakWrites c closed
    (true, g.modifyClient c.name fun c => { c with saidGoodbye := true })

/-- The tag of the call that closes all sessions at shutdown. -/
def stopTag : Nat := 0

/-- Requests shutdown; the server then closes all sessions. -/
def shutdown (g : Gateway) : Gateway :=
  if g.relay.shuttingDown then g
  else { g with relay := (g.relay.shutdown.callCloseAll stopTag).returnCalls }

/-- Whether every session's own task is over. -/
def allAttended (g : Gateway) : Bool :=
  g.relay.sessions.all fun a => a.attendance == .none || a.attendance == .done

/-- Whether the server has stopped and nothing is left of its sessions. -/
def hasStopped (g : Gateway) : Bool :=
  g.relay.returned.any (·.tag == stopTag) && g.allAttended

/-- What a client does by itself: it is sent what its session has written, reads, and answers
pings. -/
def serveClient (g : Gateway) (c : Client) : Gateway :=
  let c := match g.relay.session? c.session with
    | some s => c.transmit s
    | none => c
  let (pongs, c) := c.readAll g.relay.env.now
  (g.modifyClient c.name fun _ => c).arrive c (List.replicate pongs .pong)

/-- Whether a client has something to do by itself. -/
def isBusy (g : Gateway) (c : Client) : Bool :=
  (!c.muted && !c.incoming.isEmpty) ||
    (g.relay.session? c.session).any fun s => c.sent < s.outlet.log.size

/-- One step, or none while everything has to wait: the sessions run, then a client, then the end of
the server is noted. -/
def step (g : Gateway) : Option Gateway :=
  match g.relay.pass with
  | some relay => some { g with relay }
  | none =>
    match g.clients.find? g.isBusy with
    | some c => some (g.serveClient c)
    | none =>
      if g.hasStopped && g.stopTime.isNone then some { g with stopTime := some g.relay.env.now }
      else none

instance : Clocked Gateway where
  now g := g.relay.env.now
  setTime g now := { g with relay := { g.relay with env := { g.relay.env with now } } }
  step := Gateway.step
  deadlines g := Clocked.deadlines g.relay

end Gateway

end WatchRelay
