import WatchRelay.Text.Blank
import WatchRelay.Wire.Kind

/-! What a watch is asked for, and on whose behalf. -/

namespace WatchRelay

/-- A request to watch one kind. -/
structure WatchRequest where
  kind : ResourceKind
  /-- The project watched; empty watches every project. -/
  project : String
  /-- Whether resources that are already there are left out. -/
  noReplay : Bool
deriving DecidableEq, Repr

namespace WatchRequest

/-- The request for changes from now on. -/
def live (kind : ResourceKind) (project : String) : WatchRequest := ⟨kind, project, true⟩

/-- Whether a project is watched. -/
def inScope (r : WatchRequest) (project : String) : Bool :=
  r.project.isEmpty || r.project == project

end WatchRequest

/-- The credentials a client gave when it connected. -/
structure Credentials where
  authorization : Option String
  userAgent : Option String
  activeProject : Option String
deriving DecidableEq, Repr, Inhabited

namespace Credentials

/-- The credentials found by a look-up of header names. -/
def ofLookup (lookup : String → Option String) : Credentials :=
  ⟨lookup "Authorization", lookup "User-Agent", lookup "ActiveProjectID"⟩

/-- The credentials in a list of headers; of a repeated name the first counts. -/
def ofHeaders (headers : List (String × String)) : Credentials :=
  ofLookup fun name => (headers.find? fun h => h.1 == name).map (·.2)

/-- The text behind a leading word. -/
def afterLead (lead text : String) : Option String :=
  if lead.toList.isPrefixOf text.toList then some (String.ofList (text.toList.drop lead.length))
  else none

/-- The bearer token, if there is one that is not blank. -/
def bearer (c : Credentials) : Option String := do
  let token := trimBlank (← afterLead "Bearer " (← c.authorization))
  if token.isEmpty then none else some token

end Credentials

end WatchRelay
