import WatchRelay.Http.MediaType
import WatchRelay.Http.Uri

/-! HTTP requests. -/

namespace WatchRelay

/-- A request. -/
structure HttpRequest where
  method : String
  /-- The path of its target, still percent-encoded. -/
  path : String
  headers : List (String × String)
  body : List UInt8
  /-- Whether its connection can change to another protocol. -/
  upgradable : Bool
deriving Repr

namespace HttpRequest

/-- Whether a text is a name in HTTP. -/
def isToken (text : String) : Bool := !text.isEmpty && text.all MediaType.isTokenChar

/-- Whether a text can be the value of a header. -/
def isHeaderValue (text : String) : Bool :=
  text.all fun c => (' ' ≤ c && c != '\x7f') || c == '\t'

/-- A request, if its method, target and headers are well formed. -/
def make? (method target : String) (headers : List (String × String)) (body : List UInt8)
    (upgradable : Bool) : Option HttpRequest := do
  let path ← Uri.targetPath? target
  if isToken method && headers.all fun h => isToken h.1 && isHeaderValue h.2 then
    some ⟨method, path, headers, body, upgradable⟩
  else none

/-- The first value of a header; case does not matter in names. -/
def header? (r : HttpRequest) (name : String) : Option String :=
  (r.headers.find? fun h => h.1.toLower == name.toLower).map (·.2)

/-- The first value of a header, if it has visible characters only. -/
def visibleHeader? (r : HttpRequest) (name : String) : Option String :=
  (r.header? name).filter fun value => value.all fun c => (' ' ≤ c && c ≤ '~') || c == '\t'

/-- Whether the body is declared to be JSON. -/
def declaresJson (r : HttpRequest) : Bool :=
  (r.visibleHeader? "Content-Type").any MediaType.isJson

end HttpRequest

end WatchRelay
