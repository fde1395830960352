import WatchRelay.Backend.Playlist
import WatchRelay.Catalog.Hub

/-! The backend that sessions watch: the catalog, or feeds that are played. -/

namespace WatchRelay

/-- Where the changes come from. -/
inductive Backend where
  | catalog (hub : Hub)
  | played (list : Playlist)

/-- How the backend takes a request for a watch. -/
inductive Opening where
  | normal
  | refuse (failure : WatchFailure)
  /-- The answer never comes. -/
  | hang
  /-- The one who asks breaks down. -/
  | crash
deriving DecidableEq, Repr

/-- A backend, and how it takes requests for watches of each kind. -/
structure Source where
  backend : Backend
  openings : PerKind Opening

/-- The answer to a request for a watch. -/
inductive OpenAnswer where
  | opened (id : Nat)
  | refused (failure : WatchFailure)
  | never
  | crash
deriving DecidableEq, Repr

namespace Backend

/-- Opens a watch. -/
def openWatch (b : Backend) (request : WatchRequest) (credentials : Credentials) :
    OpenAnswer × Backend :=
  match b with
  | .catalog hub =>
    match hub.openWatch request credentials with
    | .ok (id, hub) => (.opened id, .catalog hub)
    | .error f => (.refused f, .catalog hub)
  | .played list =>
    let (id, list) := list.openFeed request.kind
    (.opened id, .played list)

/-- Reads from a watch. -/
def read (b : Backend) (now id : Nat) : Reading × Backend :=
  match b with
  | .catalog hub =>
    let (item, hub) := hub.read id
    (match item with
      | .event e => .event e
      | .failure f => .failure f
      | .ended => .ended
      | .passed => .passed
      | .pending => .pending, .catalog hub)
  | .played list =>
    let (reading, list) := list.read now id
    (reading, .played list)

/-- Closes a watch. -/
def close (b : Backend) (id : Nat) : Backend :=
  match b with
  | .catalog hub => .catalog (hub.close id)
  | .played list => .played (list.close id)

/-- How many watches of a kind are open. -/
def watchers (b : Backend) (kind : ResourceKind) : Nat :=
  match b with
  | .catalog hub => hub.watchers kind
  | .played list => list.watchers kind

/-- When the backend has something new on its own. -/
def deadlines : Backend → List Nat
  | .catalog _ => []
  | .played list => list.deadlines

end Backend

namespace Source

/-- A backend that takes every request. -/
def of (backend : Backend) : Source := ⟨backend, .const .normal⟩

/-- Sets how watches of a kind are opened from now on. -/
def setOpening (s : Source) (kind : ResourceKind) (opening : Opening) : Source :=
  { s with openings := s.openings.set kind opening }

/-- Answers a request for a watch. -/
def openWatch (s : Source) (request : WatchRequest) (credentials : Credentials) :
    OpenAnswer × Source :=
  match s.openings.get request.kind with
  | .normal =>
    let (answer, backend) := s.backend.openWatch request credentials
    (answer, { s with backend })
  | .refuse f => (.refused f, s)
  | .hang => (.never, s)
  | .crash => (.crash, s)

/-- Reads from a watch. -/
def read (s : Source) (now id : Nat) : Reading × Source :=
  let (reading, backend) := s.backend.read now id
  (reading, { s with backend })

/-- Closes a watch. -/
def close (s : Source) (id : Nat) : Source := { s with backend := s.backend.close id }

end Source

end WatchRelay
