import WatchRelay.Catalog.Hub

/-! A catalog whose watches are known by names. -/

namespace WatchRelay

/-- A catalog and the numbers of the watches that have a name. -/
structure Board where
  hub : Hub
  names : List (String × Nat)
deriving Inhabited

namespace Board

/-- Opens a watch under a name; an older watch of that name is closed. -/
def openWatch (b : Board) (name : String) (request : WatchRequest) (credentials : Credentials) :
    Except WatchFailure Board := do
  let (id, hub) ← b.hub.openWatch request credentials
  let hub := match b.names.lookup name with
    | some old => hub.close old
    | none => hub
  .ok ⟨hub, (name, id) :: b.names.filter fun p => p.1 ≠ name⟩

/-- Reads what a watch yields now, at most as many items as the fuel. -/
def readUpTo : Nat → Hub → Nat → List WatchItem × Hub
  | 0, hub, _ => ([], hub)
  | fuel + 1, hub, id =>
    match hub.read id with
    | (.pending, hub) | (.passed, hub) => ([], hub)
    | (.ended, hub) => ([.ended], hub)
    | (item, hub) =>
      let (items, hub) := readUpTo fuel hub id
      (item :: items, hub)

/-- Everything a watch can yield at once: its replay, its buffer, a failure and its end. -/
def available (hub : Hub) (id : Nat) : Nat :=
  match hub.watch? id with
  | none => 1
  | some w => w.replay.length + (hub.feed w.request.kind).log.size + 2

/-- Reads what the named watch yields now, if there is one. -/
def poll (b : Board) (name : String) (most : Option Nat) : Option (List WatchItem × Board) := do
  let id ← b.names.lookup name
  let (items, hub) := readUpTo (most.getD (available b.hub id)) b.hub id
  some (items, { b with hub })

/-- Closes the named watch and tells whether there was one. -/
def drop (b : Board) (name : String) : Bool × Board :=
  match b.names.lookup name with
  | none => (false, b)
  | some id => (true, ⟨b.hub.close id, b.names.filter fun p => p.1 ≠ name⟩)

end Board

end WatchRelay
