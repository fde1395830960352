import WatchRelay.Session.Teardown

/-! A client on a WebSocket: what reaches it, and what it sends without being asked. -/

namespace WatchRelay

/-- What a client finds on its side of the socket. -/
inductive ClientEvent where
  | message (message : Message)
  | ping
  /-- The answer to its own ping, with the length of what that carried. -/
  | pong (length : Nat)
  | close (frame : Option CloseFrame)
  /-- Nothing follows. -/
  | ended
deriving DecidableEq, Repr

/-- A client. -/
structure Client where
  name : String
  /-- The name of its session. -/
  session : String
  /-- Whether it does not read for now. -/
  muted : Bool
  /-- Whether it has sent a close frame. -/
  saidGoodbye : Bool
  /-- Whether the relay has cut the socket. -/
  cut : Bool
  /-- How many entries of the session's log have been sent to it. -/
  sent : Nat
  /-- What was sent to it and not read yet. -/
  incoming : List ClientEvent
  /-- What it has read, and when. -/
  read : Array (Nat × ClientEvent)
deriving Repr

namespace Client

/-- A client that has just connected. -/
def new (name session : String) : Client := ⟨name, session, false, false, false, 0, [], #[]⟩

/-- What a happening on the relay's side is to the client. -/
def eventOf? : Happening → Option ClientEvent
  | .frame (.message m) _ => some (.message m)
  | .frame .ping _ => some .ping
  | .frame (.close f) _ => some (.close f)
  | .ended => none
  | .dropped => some .ended

/-- Sends what the session has written since. -/
def transmit (c : Client) (s : Session) : Client :=
  let events := (s.outlet.log.toList.drop c.sent).filterMap fun x => eventOf? x.happening
  { c with
    sent := s.outlet.log.size
    incoming := c.incoming ++ events
    cut := c.cut || events.contains .ended }

/-- Reads events; tells how many pings it answers.

A ping that cannot be answered because the socket is cut ends the reading; after its own close frame
a client answers none. -/
def readEvents (c : Client) (now : Nat) : List ClientEvent → Nat × Array (Nat × ClientEvent)
  | [] => (0, c.read)
  | .ping :: rest =>
    let c := { c with read := c.read.push (now, .ping) }
    if c.saidGoodbye then c.readEvents now rest
    else if c.cut then (0, c.read.push (now, .ended))
    else
      let (pongs, read) := c.readEvents now rest
      (pongs + 1, read)
  | event :: rest => { c with read := c.read.push (now, event) }.readEvents now rest

/-- Reads all there is, unless it is muted; gives the pongs it sends. -/
def readAll (c : Client) (now : Nat) : Nat × Client :=
  if c.muted then (0, c)
  else
    let (pongs, read) := c.readEvents now c.incoming
    (pongs, { c with incoming := [], read })

/-- Whether what the client sends can be written. -/
def canSend (c : Client) : Bool := !c.saidGoodbye && !c.cut

end Client

end WatchRelay
