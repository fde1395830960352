import WatchRelay.Catalog.Store
import WatchRelay.Watch.Event
import WatchRelay.Watch.Request

/-! The feed of one kind: its resources and the changes published about them. -/

namespace WatchRelay

/-- Why the catalog refuses a change. -/
inductive CatalogFault where
  | notObject
  | noName
  | notFound (kind : ResourceKind) (project name : String)
deriving DecidableEq, Repr

namespace CatalogFault

/-- The wording of a refusal. -/
def message : CatalogFault → String
  | .notObject => "invalid resource: resource must be a JSON object"
  | .noName => "invalid resource: resource must carry a non-empty string name"
  | .notFound kind project name =>
    kind.name ++ " " ++ quoted name ++ " not found in project " ++ quoted project

end CatalogFault

/-- The name of a resource: the text of its member `name`, which must not be empty. -/
def resourceName (resource : Json) : Except CatalogFault String :=
  match resource with
  | .object members =>
    match (Members.find? "name" members).bind Json.asString? with
    | some name => if name.isEmpty then .error .noName else .ok name
    | none => .error .noName
  | _ => .error .notObject

/-- The resources of one kind and every change published about them, the first one first. -/
structure Feed where
  store : Store
  log : Array Event
deriving Inhabited

namespace Feed

/-- The feed without resources. -/
def empty : Feed := ⟨[], #[]⟩

/-- Puts a resource into the store and publishes that it was created or updated. -/
def upsert (f : Feed) (project : String) (resource : Json) :
    Except CatalogFault (Change × Feed) := do
  let name ← resourceName resource
  let key : ResourceKey := ⟨project, name⟩
  let change : Change := if (f.store.find? key).isSome then .updated else .created
  .ok (change, ⟨f.store.insert key resource, f.log.push ⟨change, project, resource⟩⟩)

/-- Takes a resource out of the store and publishes that it was deleted, with its last state. -/
def remove (f : Feed) (kind : ResourceKind) (project name : String) :
    Except CatalogFault (Json × Feed) :=
  let key : ResourceKey := ⟨project, name⟩
  match f.store.find? key with
  | none => .error (.notFound kind project name)
  | some resource =>
    .ok (resource, ⟨f.store.erase key, f.log.push ⟨.deleted, project, resource⟩⟩)

/-- The resources of a project, or of every project when none is named. -/
def list (f : Feed) (project : String) : List Json :=
  (f.store.filter fun (key, _) => project.isEmpty || key.project == project).map (·.2)

/-- What a watch that replays is given first. -/
def replay (f : Feed) (request : WatchRequest) : List Event :=
  (f.store.filter fun (key, _) => request.inScope key.project).map
    fun (key, resource) => ⟨.replayed, key.project, resource⟩

/-- The first event in scope at a position or after it, with the position behind it. -/
def nextInScope (f : Feed) (request : WatchRequest) (position : Nat) : Option (Event × Nat) :=
  if h : position < f.log.size then
    if request.inScope f.log[position].project then some (f.log[position], position + 1)
    else nextInScope f request (position + 1)
  else none
termination_by f.log.size - position

end Feed

end WatchRelay
