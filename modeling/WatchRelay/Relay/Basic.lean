import WatchRelay.Session.Teardown

/-! The relay: its sessions, the register of those it serves, and the calls that end them. -/

namespace WatchRelay

/-- Whether a session has a task of its own that ends it when its event loop is over. -/
inductive Attendance where
  | none
  /-- The task runs the event loop. -/
  | attending
  /-- The task waits for its call to tear the session down. -/
  | removing (call : Nat)
  | done
deriving DecidableEq, Repr

/-- A session of the relay. -/
structure Attached where
  name : String
  session : Session
  attendance : Attendance
deriving Repr

/-- What a pending call does. -/
inductive CallKind where
  | teardown (name : String)
  | unregister (wasRegistered : Bool)
  | closeAll
deriving DecidableEq, Repr

/-- What a call returned. -/
inductive CallResult where
  | state (state : SessionState)
  | removed (wasRegistered : Bool)
  | allClosed
deriving DecidableEq, Repr

/-- A call that has not returned. -/
structure PendingCall where
  /-- What the caller knows it by. -/
  tag : Nat
  kind : CallKind
  /-- The teardown calls it waits for, each with its session. -/
  waits : List (String × Nat)
deriving Repr

/-- A call that has returned. -/
structure ReturnedCall where
  tag : Nat
  result : CallResult
  time : Nat
deriving Repr

/-- The relay. -/
structure Relay where
  config : Config
  /-- Whether shutdown was requested. -/
  shuttingDown : Bool
  sessions : List Attached
  /-- The names of the sessions in the register. -/
  registered : List String
  pending : List PendingCall
  returned : Array ReturnedCall
  /-- The number of the next teardown call. -/
  nextCall : Nat
  env : Surroundings

namespace Relay

/-- A relay without sessions. -/
def new (config : Config) (source : Source) : Relay :=
  ⟨config, false, [], [], [], #[], 0, .start source⟩

/-- Replaces the backend. -/
def setBackend (r : Relay) (backend : Backend) : Relay :=
  { r with env := { r.env with source := { r.env.source with backend } } }

/-- Sets how watches of a kind are opened from now on. -/
def setOpening (r : Relay) (kind : ResourceKind) (opening : Opening) : Relay :=
  { r with env := { r.env with source := r.env.source.setOpening kind opening } }

/-- Sends an item to the open feeds of a kind and counts them. -/
def emit (r : Relay) (kind : ResourceKind) (item : FeedItem) : Nat × Relay :=
  match r.env.source.backend with
  | .played list =>
    let (count, list) := list.emit kind item
    (count, r.setBackend (.played list))
  | .catalog _ => (0, r)

/-- Ends the open feeds of a kind. -/
def endFeeds (r : Relay) (kind : ResourceKind) : Relay :=
  match r.env.source.backend with
  | .played list => r.setBackend (.played (list.endFeeds kind))
  | .catalog _ => r

/-- The session with a name. -/
def session? (r : Relay) (name : String) : Option Session :=
  (r.sessions.find? fun a => a.name == name).map (·.session)

/-- Changes the attached session with a name. -/
def modifyAttached (r : Relay) (name : String) (f : Attached → Attached) : Relay :=
  { r with sessions := r.sessions.map fun a => if a.name = name then f a else a }

/-- Changes the session with a name. -/
def modifySession (r : Relay) (name : String) (f : Session → Session) : Relay :=
  r.modifyAttached name fun a => { a with session := f a.session }

/-- Starts a session whose lifetime ends with the relay's, if its configuration lets it start;
`prepare` sets it up. -/
def start? (r : Relay) (name : String) (credentials : Credentials) (wire : WireState)
    (attendance : Attendance) (prepare : Session → Session) : Option Relay :=
  if r.config.canStart then
    let session := prepare (Session.start r.config credentials wire r.env.now r.shuttingDown)
    some { r with
      sessions := r.sessions.filter (fun a => a.name != name) ++ [⟨name, session, attendance⟩]
      env := r.env.count .sessionStarted }
  else none

/-- Puts a session into the register. -/
def register (r : Relay) (name : String) : Relay :=
  { r with registered := r.registered.filter (· != name) ++ [name] }

/-- Requests shutdown: every lifetime ends. -/
def shutdown (r : Relay) : Relay :=
  { r with
    shuttingDown := true
    sessions := r.sessions.map fun a =>
      { a with session := { a.session with cancelled := true } } }

/-- Begins to tear a session down and gives the number of the call. -/
def beginTeardown (r : Relay) (name : String) : Nat × Relay :=
  let r' := r.modifySession name fun s => s.beginTeardown r.nextCall r.env.now
  (r.nextCall, { r' with nextCall := r.nextCall + 1 })

/-- Calls for a session to be torn down. -/
def callTeardown (r : Relay) (tag : Nat) (name : String) : Relay :=
  let (call, r) := r.beginTeardown name
  { r with pending := r.pending ++ [⟨tag, .teardown name, [(name, call)]⟩] }

/-- Calls for a session to be taken out of the register and torn down. -/
def callUnregister (r : Relay) (tag : Nat) (name : String) : Relay :=
  if r.registered.contains name then
    let (call, r) := { r with registered := r.registered.filter (· != name) }.beginTeardown name
    { r with pending := r.pending ++ [⟨tag, .unregister true, [(name, call)]⟩] }
  else { r with pending := r.pending ++ [⟨tag, .unregister false, []⟩] }

/-- Begins to tear all these sessions down. -/
def beginTeardowns (r : Relay) : List String → List (String × Nat) × Relay
  | [] => ([], r)
  | name :: rest =>
    let (call, r) := r.beginTeardown name
    let (calls, r) := r.beginTeardowns rest
    ((name, call) :: calls, r)

/-- Calls for the register to be emptied and every session in it torn down. -/
def callCloseAll (r : Relay) (tag : Nat) : Relay :=
  let (waits, r) := { r with registered := [] }.beginTeardowns r.registered
  { r with pending := r.pending ++ [⟨tag, .closeAll, waits⟩] }

/-- Whether a teardown call has returned. -/
def teardownOver (r : Relay) (name : String) (call : Nat) : Bool :=
  match r.session? name with
  | some s => s.teardown? call == some .finished
  | none => true

/-- Whether everything a call waits for is over. -/
def isOver (r : Relay) (c : PendingCall) : Bool :=
  c.waits.all fun (name, call) => r.teardownOver name call

/-- What a call returns. -/
def result (r : Relay) : CallKind → CallResult
  | .teardown name => .state ((r.session? name).map (·.state) |>.getD .closed)
  | .unregister wasRegistered => .removed wasRegistered
  | .closeAll => .allClosed

/-- Lets the calls return that are over. -/
def returnCalls (r : Relay) : Relay :=
  let due := r.pending.filter r.isOver
  if due.isEmpty then r
  else
    { r with
      pending := r.pending.filter fun c => !r.isOver c
      returned :=
        due.foldl (fun all c => all.push ⟨c.tag, r.result c.kind, r.env.now⟩) r.returned }

/-- One step of the task that attends a session, or none while there is nothing to do. -/
def attend (r : Relay) (a : Attached) : Option Relay :=
  match a.attendance with
  | .attending =>
    if a.session.loopFinished then
      if r.registered.contains a.name then
        let r := { r with registered := r.registered.filter (· != a.name) }
        let (call, r) := r.beginTeardown a.name
        some (r.modifyAttached a.name fun a => { a with attendance := .removing call })
      else some (r.modifyAttached a.name fun a => { a with attendance := .done })
    else none
  | .removing call =>
    if r.teardownOver a.name call then
      some (r.modifyAttached a.name fun a => { a with attendance := .done })
    else none
  | .none | .done => none

/-- One step of a task of a session, or none while it has nothing to do. -/
def step (r : Relay) (name : String) (task : Session.Task) : Option Relay := do
  let s ← r.session? name
  let (s, env) ← s.step r.env task
  some (({ r with env }).modifySession name fun _ => s)

end Relay

end WatchRelay
