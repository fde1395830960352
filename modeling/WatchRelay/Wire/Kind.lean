/-! The kinds of catalog resources, and kinds as clients name them. -/

namespace WatchRelay

/-- A kind of resource the catalog holds. -/
inductive ResourceKind where
  | registry
  | artifact
  | application
  | deploymentPackage
deriving DecidableEq, Repr, Inhabited

namespace ResourceKind

/-- Every kind, in order. -/
def all : List ResourceKind := [.registry, .artifact, .application, .deploymentPackage]

/-- The place of a kind in the order. -/
def rank : ResourceKind → Nat
  | .registry => 0
  | .artifact => 1
  | .application => 2
  | .deploymentPackage => 3

/-- The name of a kind. -/
def name : ResourceKind → String
  | .registry => "Registry"
  | .artifact => "Artifact"
  | .application => "Application"
  | .deploymentPackage => "DeploymentPackage"

/-- The kind with a name. -/
def ofName? (text : String) : Option ResourceKind := all.find? fun k => k.name == text

/-- What is said of a text that names no kind. -/
def unknownMessage (text : String) : String := "unknown resource kind: " ++ text

/-- The kinds given, in order. -/
def sort (kinds : List ResourceKind) : List ResourceKind :=
  kinds.mergeSort fun a b => a.rank ≤ b.rank

end ResourceKind

/-- A kind as a client names it: one of the catalog's, or any other text. -/
inductive Kind where
  | known (kind : ResourceKind)
  | unknown (text : String)
deriving DecidableEq, Repr

namespace Kind

/-- The kind a text names. -/
def ofText (text : String) : Kind :=
  match ResourceKind.ofName? text with
  | some kind => .known kind
  | none => .unknown text

/-- The text of a kind. -/
def text : Kind → String
  | .known kind => kind.name
  | .unknown text => text

/-- The catalog's kind, if it is one. -/
def resource? : Kind → Option ResourceKind
  | .known kind => some kind
  | .unknown _ => none

/-- The kind of a message that names none. -/
def default : Kind := .unknown ""

end Kind

end WatchRelay
