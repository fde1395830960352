import WatchRelay.Wire.Message

/-! Changes to resources, as a watch reports them. -/

namespace WatchRelay

/-- What happened to a resource; a replayed one was there before the watch. -/
inductive Change where
  | created
  | updated
  | deleted
  | replayed
deriving DecidableEq, Repr

namespace Change

/-- Every change. -/
def all : List Change := [.created, .updated, .deleted, .replayed]

/-- The word of a change. -/
def word : Change → String
  | .created => "created"
  | .updated => "updated"
  | .deleted => "deleted"
  | .replayed => "replayed"

/-- The change of a word. -/
def ofWord? (word : String) : Option Change := all.find? fun c => c.word == word

/-- The operation a change is reported as; a replayed resource is not reported. -/
def operation? : Change → Option Operation
  | .created => some .created
  | .updated => some .updated
  | .deleted => some .deleted
  | .replayed => none

/-- Reads a change. -/
def reader : TreeReader Change := Tree.word fun word =>
  match ofWord? word with
  | some c => .ok c
  | none => .error (.unknownVariant word (all.map Change.word))

end Change

/-- A change to one resource of a project, with the resource's state after it. -/
structure Event where
  change : Change
  project : String
  resource : Json
deriving DecidableEq, Repr

namespace Event

/-- The compact text of an event. -/
def print (e : Event) : String :=
  String.ofList (recordChars
    [("change", jsonString e.change.word), ("project", jsonString e.project),
      ("resource", e.resource.chars)])

/-- The report of the event to a client, if it has one. -/
def notification? (kind : ResourceKind) (e : Event) : Option Message :=
  e.change.operation?.map fun op => Message.notification op kind e.project e.resource

/-- An event whose fields are not all read yet. -/
structure Draft where
  change : Option Change := none
  project : Option String := none
  resource : Option Json := none

/-- The fields of an event. -/
def record : Record Draft Event where
  name := "ChangeEvent"
  fields :=
    [ .of "change" false (·.change) (fun d v => { d with change := some v })
        Change.reader (fun _ => .error .expectedValue),
      .of "project" false (·.project) (fun d v => { d with project := some v })
        Tree.text Json.text,
      .of "resource" false (·.resource) (fun d v => { d with resource := some v })
        Tree.any .ok ]
  empty := {}
  finish d :=
    match d.change, d.project, d.resource with
    | none, _, _ => .error (.missingField "change")
    | _, none, _ => .error (.missingField "project")
    | _, _, none => .error (.missingField "resource")
    | some change, some project, some resource => .ok ⟨change, project, resource⟩

/-- Reads an event. -/
def ofText (text : String) : Except Fault Event := readText record.ofTree text

end Event

end WatchRelay
