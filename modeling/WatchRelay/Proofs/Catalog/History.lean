import WatchRelay.Catalog.Hub

/-! What is done with a catalog over time: changes to its resources, and watches opened, read and
closed. -/

namespace WatchRelay

/-- What can be done with a catalog. -/
inductive HubAction where
  | upsert (kind : ResourceKind) (project : String) (resource : Json)
  | remove (kind : ResourceKind) (project name : String)
  | openWatch (request : WatchRequest) (credentials : Credentials)
  | read (watch : Nat)
  | close (watch : Nat)

namespace Hub

/-- The catalog after an action; one that is refused changes nothing. -/
def act (h : Hub) : HubAction → Hub
  | .upsert kind project resource =>
    match h.upsert kind project resource with
    | .ok (_, h) => h
    | .error _ => h
  | .remove kind project name =>
    match h.remove kind project name with
    | .ok (_, h) => h
    | .error _ => h
  | .openWatch request credentials =>
    match h.openWatch request credentials with
    | .ok (_, h) => h
    | .error _ => h
  | .read watch => (h.read watch).2
  | .close watch => h.close watch

/-- The catalog after actions. -/
def after (h : Hub) (actions : List HubAction) : Hub := actions.foldl act h

theorem after_append (h : Hub) (actions more : List HubAction) :
    h.after (actions ++ more) = (h.after actions).after more := List.foldl_append ..

/-- The change an action makes to the resources of a kind, as its answer tells. -/
def change? (h : Hub) (kind : ResourceKind) : HubAction → Option Event
  | .upsert k project resource =>
    match h.upsert k project resource with
    | .ok (change, _) => if k = kind then some ⟨change, project, resource⟩ else none
    | .error _ => none
  | .remove k project name =>
    match h.remove k project name with
    | .ok (resource, _) => if k = kind then some ⟨.deleted, project, resource⟩ else none
    | .error _ => none
  | .openWatch _ _ | .read _ | .close _ => none

/-- What an action reads from a watch. -/
def item? (h : Hub) (watch : Nat) : HubAction → Option WatchItem
  | .read w => if w = watch then some (h.read w).1 else none
  | _ => none

/-- The changes that actions make to the resources of a kind, in order. -/
def changes (kind : ResourceKind) : Hub → List HubAction → List Event
  | _, [] => []
  | h, action :: rest => (h.change? kind action).toList ++ changes kind (h.act action) rest

theorem changes_append (kind : ResourceKind) (h : Hub) (actions more : List HubAction) :
    h.changes kind (actions ++ more) =
      h.changes kind actions ++ (h.after actions).changes kind more := by
  -- By induction on the actions, whose first changes stand first.
  induction actions generalizing h with
  | nil => rfl
  | cons action rest ih =>
    rw [List.cons_append, changes, changes, ih, List.append_assoc]
    rfl

/-- What actions read from a watch, in order. -/
def items (watch : Nat) : Hub → List HubAction → List WatchItem
  | _, [] => []
  | h, action :: rest => (h.item? watch action).toList ++ items watch (h.act action) rest

theorem items_append (watch : Nat) (h : Hub) (actions more : List HubAction) :
    h.items watch (actions ++ more) =
      h.items watch actions ++ (h.after actions).items watch more := by
  -- By induction on the actions, as for the changes.
  induction actions generalizing h with
  | nil => rfl
  | cons action rest ih =>
    rw [List.cons_append, items, items, ih, List.append_assoc]
    rfl

end Hub

end WatchRelay
