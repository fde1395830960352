import WatchRelay.Catalog.Feed
import WatchRelay.Catalog.PerKind
import WatchRelay.Watch.Failure

/-! The catalog: a feed for each kind, and the watches open on them. -/

namespace WatchRelay

/-- How far a watch has come. -/
inductive WatchPhase where
  | live
  /-- It fell behind and has said so; only its end is left. -/
  | lagged
  | ended
deriving DecidableEq, Repr

/-- A watch of one feed. -/
structure Watch where
  request : WatchRequest
  /-- What is still to be replayed. -/
  replay : List Event
  /-- How many published events it has read past. -/
  position : Nat
  phase : WatchPhase
deriving Repr

/-- The result of reading from a watch. -/
inductive WatchItem where
  | event (event : Event)
  | failure (failure : WatchFailure)
  | ended
  /-- Nothing in scope is there yet, and events out of scope were read past. -/
  | passed
  /-- Nothing is there yet. -/
  | pending
deriving DecidableEq, Repr

/-- The least power of two that is no smaller than a number. -/
def roundUpToPowerOfTwo (n : Nat) : Nat := if n ≤ 1 then 1 else Nat.pow 2 (Nat.log2 (n - 1) + 1)

namespace Watch

/-- The next thing a watch yields from its feed, whose buffer holds `room` unread events. -/
def next (w : Watch) (feed : Feed) (room : Nat) : WatchItem × Watch :=
  match w.phase with
  | .ended => (.ended, w)
  | .lagged => (.ended, { w with phase := .ended })
  | .live =>
    match w.replay with
    | event :: rest => (.event event, { w with replay := rest })
    | [] =>
      let unread := feed.log.size - w.position
      if room < unread then (.failure (.lagged (unread - room)), { w with phase := .lagged })
      else
        match feed.nextInScope w.request w.position with
        | some (event, position) => (.event event, { w with position })
        | none => (if unread = 0 then .pending else .passed, { w with position := feed.log.size })

/-- Whether a watch still counts as one of its kind. -/
def isOpen (w : Watch) : Bool := w.phase != .ended

end Watch

/-- The catalog. -/
structure Hub where
  feeds : PerKind Feed
  /-- The watches opened and not closed, each with its number. -/
  watches : List (Nat × Watch)
  /-- The number of the next watch. -/
  nextWatch : Nat
  /-- How many unread events a feed keeps for a watch. -/
  room : Nat
  requireToken : Bool
deriving Inhabited

namespace Hub

/-- A catalog without resources; the room for unread events is rounded up to a power of two. -/
def empty (capacity : Nat) (requireToken : Bool) : Hub :=
  ⟨.const .empty, [], 0, roundUpToPowerOfTwo capacity, requireToken⟩

/-- The room for unread events where none is asked for. -/
def defaultCapacity : Nat := 1024

/-- The feed of a kind. -/
def feed (h : Hub) (kind : ResourceKind) : Feed := h.feeds.get kind

/-- Creates or replaces a resource. -/
def upsert (h : Hub) (kind : ResourceKind) (project : String) (resource : Json) :
    Except CatalogFault (Change × Hub) := do
  let (change, feed) ← (h.feed kind).upsert project resource
  .ok (change, { h with feeds := h.feeds.set kind feed })

/-- Deletes a resource and gives its last state. -/
def remove (h : Hub) (kind : ResourceKind) (project name : String) :
    Except CatalogFault (Json × Hub) := do
  let (resource, feed) ← (h.feed kind).remove kind project name
  .ok (resource, { h with feeds := h.feeds.set kind feed })

/-- The resources of a kind in a project, or in every project when none is named. -/
def list (h : Hub) (kind : ResourceKind) (project : String) : List Json :=
  (h.feed kind).list project

/-- Opens a watch and gives its number. -/
def openWatch (h : Hub) (request : WatchRequest) (credentials : Credentials) :
    Except WatchFailure (Nat × Hub) :=
  if h.requireToken && credentials.bearer.isNone then
    .error (.unauthenticated "bearer token required")
  else
    let feed := h.feed request.kind
    let replay := if request.noReplay then [] else feed.replay request
    let watch : Watch := ⟨request, replay, feed.log.size, .live⟩
    .ok (h.nextWatch,
      { h with watches := h.watches ++ [(h.nextWatch, watch)], nextWatch := h.nextWatch + 1 })

/-- The watch with a number. -/
def watch? (h : Hub) (id : Nat) : Option Watch := h.watches.lookup id

/-- Reads from a watch. -/
def read (h : Hub) (id : Nat) : WatchItem × Hub :=
  match h.watch? id with
  | none => (.ended, h)
  | some w =>
    let (item, w) := w.next (h.feed w.request.kind) h.room
    (item, { h with watches := h.watches.map fun p => if p.1 = id then (id, w) else p })

/-- Closes a watch. -/
def close (h : Hub) (id : Nat) : Hub := { h with watches := h.watches.filter fun p => p.1 ≠ id }

/-- How many watches of a kind are open. -/
def watchers (h : Hub) (kind : ResourceKind) : Nat :=
  h.watches.countP fun (_, w) => w.isOpen && w.request.kind == kind

end Hub

end WatchRelay
