import WatchRelay.Json.Value

/-! Laying one JSON value over another. -/

namespace WatchRelay

namespace Json

mutual

/-- Lays `source` over `target`: objects are merged key by key, anything else is replaced. -/
def overlay (target source : Json) : Json :=
  match source with
  | .object members =>
    match target with
    | .object below => .object (overlayMembers below members)
    | _ => .object members
  | source => source

/-- Lays members over those of an object; a `null` leaves what is there. -/
def overlayMembers (below : Members) : List (String × Json) → Members
  | [] => below
  | (key, value) :: rest =>
    let laid :=
      if value.isNull then below
      else
        match below.find? key with
        | some old => below.insert key (overlay old value)
        | none => below.insert key value
    overlayMembers laid rest

end

end Json

end WatchRelay
