import WatchRelay.Catalog.Hub
import WatchRelay.Http.Endpoint
import WatchRelay.Http.Percent
import WatchRelay.Http.Refusal
import WatchRelay.Http.Request
import WatchRelay.Json.Reader
import WatchRelay.Text.Occurs

/-! Answering requests: changes of the catalog, its resources, health, and the start of a
session. -/

namespace WatchRelay

namespace HttpRequest

/-- A part of the path as text. -/
def part (name raw : String) : Except HttpRefusal String :=
  match percentDecode raw with
  | some text => .ok text
  | none => .error (.badPath name)

/-- The longest body that is read, in bytes. -/
def maxBodySize : Nat := 2097152

/-- The body as a JSON value. -/
def jsonBody (r : HttpRequest) : Except HttpRefusal Json :=
  if !r.declaresJson then .error .notJson
  else if maxBodySize < r.body.length then .error .bodyTooLong
  else
    match Utf8.decode r.body with
    | .error _ => .error .badJson
    | .ok text => (Json.ofText text).mapError fun _ => .badJson

/-- The kind a text names. -/
def knownKind (text : String) : Except HttpRefusal ResourceKind :=
  match ResourceKind.ofName? text with
  | some kind => .ok kind
  | none => .error (.unknownKind text)

/-- Accepts a request to go on over a WebSocket. -/
def upgrade (r : HttpRequest) : Except HttpRefusal HttpResponse :=
  let equals (name word : String) : Bool := (r.header? name).any fun v => v.toLower == word
  let lists (name word : String) : Bool :=
    (r.header? name).any fun v => occursIn word.toList v.toLower.toList
  if r.method ≠ "GET" then .error .methodNotGet
  else if !lists "Connection" "upgrade" then .error .noConnectionUpgrade
  else if !equals "Upgrade" "websocket" then .error .noUpgradeHeader
  else if (r.header? "Sec-WebSocket-Key").isNone then .error .noSocketKey
  else if !equals "Sec-WebSocket-Version" "13" then .error .badSocketVersion
  else if !r.upgradable then .error .notUpgradable
  else .ok (.bare 101)

end HttpRequest

namespace Hub

/-- Puts the resource of a request's body into the catalog. -/
def put (h : Hub) (kind project : String) (r : HttpRequest) :
    Except HttpRefusal (HttpResponse × Hub) := do
  let kind ← HttpRequest.part "kind" kind
  let project ← HttpRequest.part "project" project
  let resource ← r.jsonBody
  let kind ← HttpRequest.knownKind kind
  let (change, h) ← (h.upsert kind project resource).mapError .catalog
  .ok (.json (if change = .created then 201 else 200)
    (recordChars [("change", jsonString change.word)]), h)

/-- Lists the resources of a project. -/
def get (h : Hub) (kind project : String) : Except HttpRefusal HttpResponse := do
  let kind ← HttpRequest.part "kind" kind
  let project ← HttpRequest.part "project" project
  let kind ← HttpRequest.knownKind kind
  .ok (.json 200 (recordChars [("items", (Json.array (h.list kind project)).chars)]))

/-- Takes a resource out of the catalog. -/
def delete (h : Hub) (kind project name : String) : Except HttpRefusal (HttpResponse × Hub) := do
  let kind ← HttpRequest.part "kind" kind
  let project ← HttpRequest.part "project" project
  let name ← HttpRequest.part "name" name
  let kind ← HttpRequest.knownKind kind
  let (resource, h) ← (h.remove kind project name).mapError .catalog
  .ok (.json 200 resource.chars, h)

end Hub

/-- The health of a relay. -/
structure Health where
  /-- How long the process has run, in seconds of its own clock. -/
  uptime : Nat
  /-- How many sessions are live. -/
  sessions : Nat
deriving DecidableEq, Repr

namespace Health

/-- The response that tells it. -/
def response (h : Health) : HttpResponse :=
  .json 200 (recordChars [("status", jsonString "ok"), ("uptimeSecs", (toString h.uptime).toList),
    ("sessions", (toString h.sessions).toList)])

end Health

namespace Site

/-- What an endpoint does with a method it has. -/
def serve (s : Site) (hub : Hub) (health : Health) (r : HttpRequest) :
    Endpoint → Except HttpRefusal (HttpResponse × Hub)
  | .watch => r.upgrade.map (·, hub)
  | .health => .ok (health.response, hub)
  | .metrics => .ok (if s.hasMetrics then .text 200 "" else .bare 404, hub)
  | .resources kind project =>
    if r.method = "PUT" then hub.put kind project r else (hub.get kind project).map (·, hub)
  | .resource kind project name => hub.delete kind project name

/-- Answers a request.

Every OPTIONS request is answered as a browser's check before another one; a HEAD request is
answered as GET without the body. -/
def answer (s : Site) (hub : Hub) (health : Health) (r : HttpRequest) : HttpResponse × Hub :=
  let (response, hub) : HttpResponse × Hub :=
    match s.endpoint? r.path with
    | none => (.bare (if r.method = "OPTIONS" then 200 else 404), hub)
    | some e =>
      if e.methods.contains r.method then
        match s.serve hub health r e with
        | .ok answered => answered
        | .error refusal => (refusal.response, hub)
      else ({ HttpResponse.bare (if r.method = "OPTIONS" then 200 else 405) with
          allow := e.methods }, hub)
  (if r.method = "HEAD" then response.withoutBody else response, hub)

end Site

end WatchRelay
