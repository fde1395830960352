import WatchRelay.Config

/-! The endpoints of a relay, and the paths that lead to them. -/

namespace WatchRelay

/-- What a relay offers over HTTP. -/
structure Site where
  /-- The path clients connect to. -/
  watchPath : String
  /-- Whether the catalog can be changed over HTTP. -/
  hasCatalog : Bool
  /-- Whether the counts are shown; a recorder that is not the process's own has none. -/
  hasMetrics : Bool
deriving DecidableEq, Repr

/-- An endpoint; what the path names is still percent-encoded. -/
inductive Endpoint where
  | watch
  | health
  | metrics
  | resources (kind project : String)
  | resource (kind project name : String)
deriving DecidableEq, Repr

/-- The parts of a text between slashes. -/
def splitSlashes : List Char → List (List Char)
  | [] => [[]]
  | '/' :: rest => [] :: splitSlashes rest
  | c :: rest =>
    match splitSlashes rest with
    | part :: parts => (c :: part) :: parts
    | [] => [[c]]

namespace Site

/-- The site of a configuration, unless its paths could not be routed: a path begins with a slash,
and no part of it begins as an old-style parameter does. -/
def make? (config : Config) (hasCatalog hasMetrics : Bool) : Option Site :=
  let path := config.watchPath.toList
  let isOldParameter (part : List Char) : Bool :=
    part.head? == some ':' || part.head? == some '*'
  if path.head? == some '/' && !(splitSlashes path).any isOldParameter then
    some ⟨config.watchPath, hasCatalog, hasMetrics⟩
  else none

/-- The endpoint of a path of the catalog; the last part is not empty. -/
def catalogEndpoint? (path : String) : Option Endpoint :=
  match (splitSlashes path.toList).map String.ofList with
  | ["", "catalog", kind, project] =>
    if project.isEmpty then none else some (.resources kind project)
  | ["", "catalog", kind, project, name] =>
    if name.isEmpty then none else some (.resource kind project name)
  | _ => none

/-- The endpoint a path leads to. -/
def endpoint? (s : Site) (path : String) : Option Endpoint :=
  if path = s.watchPath then some .watch
  else if path = "/healthz" then some .health
  else if path = "/metrics" then some .metrics
  else if s.hasCatalog then catalogEndpoint? path
  else none

end Site

namespace Endpoint

/-- The methods of an endpoint. -/
def methods : Endpoint → List String
  | .watch | .health | .metrics => ["GET", "HEAD"]
  | .resources _ _ => ["PUT", "GET", "HEAD"]
  | .resource _ _ _ => ["DELETE"]

end Endpoint

end WatchRelay
