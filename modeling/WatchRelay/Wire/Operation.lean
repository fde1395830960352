import WatchRelay.Json.Record

/-! The operations of the protocol between client and relay. -/

namespace WatchRelay

/-- What a message asks, acknowledges or reports. -/
inductive Operation where
  | subscribe
  | subscribed
  | unsubscribe
  | unsubscribed
  | created
  | updated
  | deleted
  | unknown
deriving DecidableEq, Repr

namespace Operation

/-- The word of an operation. -/
def word : Operation → String
  | .subscribe => "subscribe"
  | .subscribed => "subscribed"
  | .unsubscribe => "unsubscribe"
  | .unsubscribed => "unsubscribed"
  | .created => "created"
  | .updated => "updated"
  | .deleted => "deleted"
  | .unknown => "unknown"

/-- Every operation that has a word of its own. -/
def all : List Operation :=
  [.subscribe, .subscribed, .unsubscribe, .unsubscribed, .created, .updated, .deleted]

/-- The operation of a word; every other word is unknown. -/
def ofWord (word : String) : Operation := (all.find? fun o => o.word == word).getD .unknown

/-- Whether the operation reports a change. -/
def isNotification : Operation → Bool
  | .created | .updated | .deleted => true
  | _ => false

/-- Reads an operation. -/
def reader : TreeReader Operation := Tree.word fun word => .ok (ofWord word)

end Operation

end WatchRelay
