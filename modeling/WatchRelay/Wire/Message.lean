import WatchRelay.Wire.Kind
import WatchRelay.Wire.Operation

/-! Messages: one JSON object for each acknowledgment and notification. -/

namespace WatchRelay

/-- A message on the wire. -/
structure Message where
  op : Operation
  kind : Kind
  project : String
  payload : Option Json
deriving DecidableEq, Repr

namespace Message

/-- The acknowledgment of a subscribe. -/
def subscribed (kind : Kind) : Message := ⟨.subscribed, kind, "", none⟩

/-- The acknowledgment of an unsubscribe. -/
def unsubscribed (kind : Kind) : Message := ⟨.unsubscribed, kind, "", none⟩

/-- The report of a change to one resource. -/
def notification (op : Operation) (kind : ResourceKind) (project : String) (resource : Json) :
    Message :=
  ⟨op, .known kind, project, some resource⟩

/-- The compact text of a message; an empty project and an absent payload are left out. -/
def chars (m : Message) : List Char :=
  let project := if m.project.isEmpty then [] else [("project", jsonString m.project)]
  let payload := match m.payload with
    | some p => [("payload", p.chars)]
    | none => []
  recordChars
    ([("op", jsonString m.op.word), ("kind", jsonString m.kind.text)] ++ project ++ payload)

/-- The compact text of a message. -/
def print (m : Message) : String := String.ofList m.chars

/-- A message whose fields are not all read yet. -/
structure Draft where
  op : Option Operation := none
  kind : Option Kind := none
  project : Option String := none
  /-- The payload, where `null` counts as read and absent. -/
  payload : Option (Option Json) := none

/-- The fields of a message. -/
def record : Record Draft Message where
  name := "WireMessage"
  fields :=
    [ .of "op" false (·.op) (fun d v => { d with op := some v })
        Operation.reader (fun _ => .error .expectedValue),
      .of "kind" true (·.kind) (fun d v => { d with kind := some v })
        (fun depth t => Kind.ofText <$> Tree.text depth t) (fun v => Kind.ofText <$> v.text),
      .of "project" true (·.project) (fun d v => { d with project := some v })
        Tree.text Json.text,
      .of "payload" true (·.payload) (fun d v => { d with payload := some v })
        (Tree.optional Tree.any) (fun v => .ok (if v.isNull then none else some v)) ]
  empty := {}
  finish d :=
    match d.op with
    | none => .error (.missingField "op")
    | some op => .ok ⟨op, d.kind.getD .default, d.project.getD "", d.payload.getD none⟩

/-- Reads a message. -/
def ofText (text : String) : Except Fault Message := readText record.ofTree text

end Message

end WatchRelay
