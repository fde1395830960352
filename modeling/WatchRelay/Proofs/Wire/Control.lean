import WatchRelay.Wire.Request

/-! What a client asks for, in its own words, and the acknowledgment it is due. -/

namespace WatchRelay

namespace Record

variable {draft α β : Type} {r : Record draft α} {q : Record draft β}

/-- Reading members depends on the fields of a record alone. -/
theorem readMembers_congr (fields : r.fields = q.fields) (depth : Nat)
    (members : List (Spelling × Tree)) (d : draft) :
    r.readMembers depth d members = q.readMembers depth d members := by
  induction members generalizing d with
  | nil => rfl
  | cons member rest ih =>
    -- The member is read alike, and the rest goes on from the same draft.
    simp only [readMembers, fields, ih]

/-- Reading items depends on the name and the fields of a record alone. -/
theorem readItems_congr (name : r.name = q.name) (fields : r.fields = q.fields) (depth : Nat)
    (stop : Stop) (toRead : List (Field draft)) (read : Nat) (d : draft) (items : List Tree) :
    r.readItems depth stop read d toRead items = q.readItems depth stop read d toRead items := by
  -- The two records differ in what they make of a draft, not in what they expect.
  have expected : r.expectedItems = q.expectedItems := by
    simp only [expectedItems, Record.expected, name, fields]
  induction toRead generalizing read d items with
  | nil => rfl
  | cons field more ih =>
    cases items with
    | nil => simp only [readItems, expected, ih]
    | cons item items => simp only [readItems, ih]

/-- A record that is finished from another one is read when that one is. -/
theorem ofTree_map (f : β → α) (name : r.name = q.name) (fields : r.fields = q.fields)
    (empty : r.empty = q.empty) (finish : ∀ d, r.finish d = (q.finish d).map f) (depth : Nat)
    (t : Tree) : r.ofTree depth t = (q.ofTree depth t).map f := by
  cases t with
  | object members stop =>
    simp only [ofTree, readMembers_congr fields, empty, finish]
    -- Before the end, both fail alike or come to the same draft.
    cases deeper depth with
    | error _ => rfl
    | ok depth =>
      cases read : q.readMembers depth q.empty members with
      | error _ => simp [bind, Except.bind, Except.map, read]
      | ok d => cases Tree.objectEnd stop <;> simp [bind, Except.bind, Except.map, read]
  | array items stop =>
    simp only [ofTree, readItems_congr name fields, fields, empty, finish]
    cases deeper depth with
    | error _ => rfl
    | ok depth =>
      cases read : q.readItems depth stop 0 q.empty q.fields items with
      | error _ => simp [bind, Except.bind, Except.map, read]
      | ok result =>
        -- The end of the array is looked at behind the finished record.
        cases whole : q.finish result.1 with
        | error _ => simp [bind, Except.bind, Except.map, read, whole]
        | ok value =>
          cases ended : itemsEnd result.2 stop <;>
            simp [bind, Except.bind, Except.map, read, whole, ended]
  | _ => simp [ofTree, Record.expected, name, Except.map]

end Record

/-- A text is read into what is made of what another reader gives. -/
theorem readText_map {α β : Type} {first : TreeReader α} {second : TreeReader β} (f : β → α)
    (same : ∀ depth t, first depth t = (second depth t).map f) (text : String) :
    readText first text = (readText second text).map f := by
  -- Both readers look at the same tree, and what is left behind it is looked at alike.
  simp only [readText, same]
  cases second depthLimit (Tree.ofText text).1 with
  | error _ => rfl
  | ok value => cases (Tree.ofText text).2 <;> rfl

/-- The text of a kind that a text names is that text. -/
theorem Kind.text_ofText (text : String) : (Kind.ofText text).text = text := by
  unfold Kind.ofText
  split
  · next kind found =>
    -- The kind was found by its name.
    have named := List.find?_some found
    simpa [Kind.text] using named
  · rfl

namespace Request

/-- The fields of a frame from a client, as they stand there; absent ones read as empty. -/
structure Fields where
  op : Operation
  kind : String
  project : String

/-- The record of the bare fields of a frame from a client. -/
def fieldsRecord : Record Draft Fields where
  name := record.name
  fields := record.fields
  empty := record.empty
  finish d :=
    .ok ⟨(d.op.getD none).getD .unknown, (d.kind.getD none).getD "",
      (d.project.getD none).getD ""⟩

/-- Reads the bare fields of a frame from a client. -/
def readFields (text : String) : Except Fault Fields := readText fieldsRecord.ofTree text

/-- A request is made of the fields of its frame. -/
theorem parse_eq (text : String) :
    parse text = (readFields text).map fun x => ofFields x.op x.kind x.project :=
  readText_map _ (Record.ofTree_map (r := record) (q := fieldsRecord)
    (fun x => ofFields x.op x.kind x.project) rfl rfl rfl fun _ => rfl) text

/-- The acknowledgment of a request, if it is due one. -/
def acknowledgment? : Request → Option Message
  | .subscribe kind _ => some (.subscribed kind)
  | .unsubscribe kind => some (.unsubscribed kind)
  | .ignored _ => none

end Request

/-- What a client asks for: the changes of a kind, or no more of them, with the kind in its own
words. -/
inductive Control where
  | subscribe (kind : String)
  | unsubscribe (kind : String)
deriving DecidableEq, Repr

namespace Control

/-- What the fields of a frame ask for, if they ask for anything. -/
def ofFields? (x : Request.Fields) : Option Control :=
  match x.op with
  | .subscribe => some (.subscribe x.kind)
  | .unsubscribe => some (.unsubscribe x.kind)
  | _ => none

/-- The kind in the client's words. -/
def kind : Control → String
  | .subscribe kind | .unsubscribe kind => kind

/-- The acknowledgment due: the kind as the client wrote it, no project and no payload. -/
def acknowledgment : Control → Message
  | .subscribe kind => ⟨.subscribed, .ofText kind, "", none⟩
  | .unsubscribe kind => ⟨.unsubscribed, .ofText kind, "", none⟩

/-- An acknowledgment repeats the kind as the client wrote it, be it known or not. -/
theorem kind_acknowledgment (c : Control) : c.acknowledgment.kind.text = c.kind := by
  cases c <;> exact Kind.text_ofText _

/-- The acknowledgment of a request is the one due to what its fields ask for. -/
theorem acknowledgment_ofFields (x : Request.Fields) :
    (Request.ofFields x.op x.kind x.project).acknowledgment? =
    (ofFields? x).map acknowledgment := by
  unfold Request.ofFields ofFields?
  cases x.op <;> rfl

end Control

end WatchRelay
