import WatchRelay.Catalog.Feed
import WatchRelay.Http.Response

/-! Why a request is refused. -/

namespace WatchRelay

/-- Why a request is refused. -/
inductive HttpRefusal where
  /-- A part of the path is not UTF-8. -/
  | badPath (part : String)
  | notJson
  /-- The body is longer than any that is read. -/
  | bodyTooLong
  | badJson
  | unknownKind (text : String)
  | catalog (fault : CatalogFault)
  /-- Only GET can ask for another protocol. -/
  | methodNotGet
  | noConnectionUpgrade
  | noUpgradeHeader
  | noSocketKey
  | badSocketVersion
  /-- The connection cannot change to another protocol. -/
  | notUpgradable
deriving DecidableEq, Repr

namespace HttpRefusal

/-- The status of a refusal. -/
def status : HttpRefusal → Nat
  | .notJson => 415
  | .bodyTooLong => 413
  | .catalog (.notFound _ _ _) => 404
  | .methodNotGet => 405
  | .notUpgradable => 426
  | _ => 400

/-- The wording of a refusal. -/
def message : HttpRefusal → String
  | .badPath part => "Invalid URL: Invalid UTF-8 in \x60" ++ part ++ "\x60"
  | .notJson => "Expected request with \x60Content-Type: application/json\x60"
  | .bodyTooLong => "Failed to buffer the request body: length limit exceeded"
  | .badJson => "Failed to parse the request body as JSON"
  | .unknownKind text => ResourceKind.unknownMessage text
  | .catalog fault => fault.message
  | .methodNotGet => "Request method must be \x60GET\x60"
  | .noConnectionUpgrade => "Connection header did not include 'upgrade'"
  | .noUpgradeHeader => "\x60Upgrade\x60 header did not include 'websocket'"
  | .noSocketKey => "\x60Sec-WebSocket-Key\x60 header missing"
  | .badSocketVersion => "\x60Sec-WebSocket-Version\x60 header did not include '13'"
  | .notUpgradable => "WebSocket request couldn't be upgraded since no upgrade state was present"

/-- Whether the catalog refuses, which it does in JSON. -/
def isFromCatalog : HttpRefusal → Bool
  | .unknownKind _ | .catalog _ => true
  | _ => false

/-- The response that carries a refusal. -/
def response (r : HttpRefusal) : HttpResponse :=
  if r.isFromCatalog then
    .json r.status (recordChars
      [("error", jsonString r.message), ("status", (toString r.status).toList)])
  else .text r.status r.message

end HttpRefusal

end WatchRelay
