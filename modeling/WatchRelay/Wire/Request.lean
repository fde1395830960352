import WatchRelay.Wire.Message

/-! What a client asks of the relay. -/

namespace WatchRelay

/-- A request of a client. -/
inductive Request where
  | subscribe (kind : Kind) (project : String)
  | unsubscribe (kind : Kind)
  /-- A well-formed frame that asks for nothing. -/
  | ignored (op : Operation)
deriving DecidableEq, Repr

namespace Request

/-- A frame from a client whose fields are not all read yet; `null` counts as read and absent. -/
structure Draft where
  op : Option (Option Operation) := none
  kind : Option (Option String) := none
  project : Option (Option String) := none

/-- The request of an operation, a kind and a project. -/
def ofFields (op : Operation) (kind project : String) : Request :=
  match op with
  | .subscribe => .subscribe (Kind.ofText kind) project
  | .unsubscribe => .unsubscribe (Kind.ofText kind)
  | op => .ignored op

/-- The fields of a frame from a client; an absent one reads as empty. -/
def record : Record Draft Request where
  name := "ControlFrame"
  fields :=
    [ .of "op" true (·.op) (fun d v => { d with op := some v })
        (Tree.optional Operation.reader) (fun _ => .error .expectedValue),
      .of "kind" true (·.kind) (fun d v => { d with kind := some v })
        (Tree.optional Tree.text) (fun v => some <$> v.text),
      .of "project" true (·.project) (fun d v => { d with project := some v })
        (Tree.optional Tree.text) (fun v => some <$> v.text) ]
  empty := {}
  finish d :=
    .ok (ofFields ((d.op.getD none).getD .unknown) ((d.kind.getD none).getD "")
      ((d.project.getD none).getD ""))

/-- Reads a frame from a client. -/
def parse (text : String) : Except Fault Request := readText record.ofTree text

end Request

end WatchRelay
