import WatchRelay.Watch.Event
import WatchRelay.Watch.Failure
import WatchRelay.Watch.Request

/-! Feeds that yield what they are given: for backends other than the catalog. -/

namespace WatchRelay

/-- What a feed holds in store. -/
inductive FeedItem where
  | event (event : Event)
  | failure (failure : WatchFailure)
  /-- The one who reads it breaks down. -/
  | crash
  /-- A pause, in milliseconds from when it is reached. -/
  | wait (ms : Nat)
deriving DecidableEq, Repr

/-- An open feed. -/
structure PlayedFeed where
  kind : ResourceKind
  items : List FeedItem
  /-- Whether it ends behind its items. -/
  ended : Bool
  /-- When the pause at its front is over, once it is reached. -/
  wakeAt : Option Nat
deriving Repr

/-- What reading from a feed gives. -/
inductive Reading where
  | event (event : Event)
  | failure (failure : WatchFailure)
  | ended
  | crash
  /-- Nothing is there yet, and reading has taken note of it. -/
  | passed
  | pending
deriving DecidableEq, Repr

namespace PlayedFeed

/-- Reads the next item. -/
def read (f : PlayedFeed) (now : Nat) : Reading × PlayedFeed := go f.wakeAt f.items
where
  /-- Reads past pauses that are over. -/
  go (wakeAt : Option Nat) : List FeedItem → Reading × PlayedFeed
    | [] => (if f.ended then .ended else .pending, { f with items := [], wakeAt := none })
    | .event e :: rest => (.event e, { f with items := rest, wakeAt := none })
    | .failure x :: rest => (.failure x, { f with items := rest, wakeAt := none })
    | .crash :: rest => (.crash, { f with items := rest, wakeAt := none })
    | .wait ms :: rest =>
      let time := wakeAt.getD (now + ms)
      if time ≤ now then go none rest
      else
        (if f.wakeAt = some time then .pending else .passed,
          { f with items := .wait ms :: rest, wakeAt := some time })

end PlayedFeed

/-- The feeds that are open. -/
structure Playlist where
  feeds : List (Nat × PlayedFeed)
  nextFeed : Nat
  /-- What a new feed holds. -/
  program : List FeedItem
  /-- Whether a new feed ends behind it. -/
  ends : Bool

namespace Playlist

/-- Feeds that are empty until something is sent to them. -/
def live : Playlist := ⟨[], 0, [], false⟩

/-- Opens a feed. -/
def openFeed (p : Playlist) (kind : ResourceKind) : Nat × Playlist :=
  let feed : PlayedFeed := ⟨kind, p.program, p.ends, none⟩
  (p.nextFeed, { p with feeds := p.feeds ++ [(p.nextFeed, feed)], nextFeed := p.nextFeed + 1 })

/-- Reads from a feed. -/
def read (p : Playlist) (now id : Nat) : Reading × Playlist :=
  match p.feeds.lookup id with
  | none => (.ended, p)
  | some f =>
    let (reading, f) := f.read now
    (reading, { p with feeds := p.feeds.map fun q => if q.1 = id then (id, f) else q })

/-- Closes a feed. -/
def close (p : Playlist) (id : Nat) : Playlist :=
  { p with feeds := p.feeds.filter fun q => q.1 ≠ id }

/-- Sends an item to every feed of a kind that still takes items, and counts them. -/
def emit (p : Playlist) (kind : ResourceKind) (item : FeedItem) : Nat × Playlist :=
  let takes (f : PlayedFeed) : Bool := f.kind == kind && !f.ended
  (p.feeds.countP fun q => takes q.2,
    { p with feeds := p.feeds.map fun (id, f) =>
        if takes f then (id, { f with items := f.items ++ [item] }) else (id, f) })

/-- Ends every feed of a kind. -/
def endFeeds (p : Playlist) (kind : ResourceKind) : Playlist :=
  { p with feeds := p.feeds.map fun (id, f) =>
      if f.kind = kind then (id, { f with ended := true }) else (id, f) }

/-- How many feeds of a kind are open. -/
def watchers (p : Playlist) (kind : ResourceKind) : Nat := p.feeds.countP fun q => q.2.kind == kind

/-- When the pauses that are reached are over. -/
def deadlines (p : Playlist) : List Nat := p.feeds.filterMap fun q => q.2.wakeAt

end Playlist

end WatchRelay
