import WatchRelay.Proofs.Json.Reading
import WatchRelay.Watch.Event

/-! What is encoded is decoded: messages and events are read back from their texts. -/

namespace WatchRelay

/-- The word of an operation stands for it. -/
@[simp] theorem Operation.ofWord_word (op : Operation) : ofWord op.word = op := by
  cases op <;> decide

/-- The word of a change stands for it. -/
@[simp] theorem Change.ofWord?_word (c : Change) : ofWord? c.word = some c := by
  cases c <;> decide

/-- The name of a kind of resource stands for it. -/
@[simp] theorem ResourceKind.ofName?_name (k : ResourceKind) : ofName? k.name = some k := by
  cases k <;> decide

/-- A kind that some text names: one of the catalog's, or a text that names none of these. -/
def Kind.IsCanonical (k : Kind) : Prop := ∃ text, k = ofText text

/-- The text of a canonical kind names it. -/
theorem Kind.IsCanonical.ofText_text {k : Kind} (canonical : k.IsCanonical) :
    ofText k.text = k := by
  obtain ⟨text, rfl⟩ := canonical
  -- The name that is written is the one that is read.
  cases named : ResourceKind.ofName? text with
  | some kind => simp [Kind.ofText, Kind.text, named]
  | none => simp [Kind.ofText, Kind.text, named]

/-- The word of an operation is read as it. -/
theorem Operation.reader_tree (op : Operation) (depth : Nat) :
    reader depth (Json.string op.word).tree = .ok op := by
  simp [reader, Tree.word, Json.tree, bind, Except.bind]

/-- The word of a change is read as it. -/
theorem Change.reader_tree (c : Change) (depth : Nat) :
    reader depth (Json.string c.word).tree = .ok c := by
  simp [reader, Tree.word, Json.tree, bind, Except.bind]

/-- A printed text is read as it was. -/
theorem Tree.text_tree (depth : Nat) (text : String) :
    Tree.text depth (Json.string text).tree = .ok text := by
  simp [Tree.text, Tree.readString, Json.tree]

namespace Message

/-- The members of the object that a message is printed as. -/
def members (m : Message) : List (String × Json) :=
  [("op", .string m.op.word), ("kind", .string m.kind.text)] ++
    (if m.project.isEmpty then [] else [("project", .string m.project)]) ++
    (match m.payload with
      | some p => [("payload", p)]
      | none => [])

/-- A message is printed as an object. -/
theorem print_eq (m : Message) : m.print = (Json.object m.members).print := by
  -- The project is left out where it is empty, and the payload where there is none.
  have fields : m.members.map (fun p => (p.1, p.2.chars)) =
      [("op", jsonString m.op.word), ("kind", jsonString m.kind.text)] ++
        (if m.project.isEmpty then [] else [("project", jsonString m.project)]) ++
        (match m.payload with
          | some p => [("payload", p.chars)]
          | none => []) := by
    unfold members
    cases m.project.isEmpty <;> cases m.payload <;> rfl
  rw [Json.print, Json.chars, Json.memberChars_eq_fieldChars, fields]
  rfl

/-- The members of a printed message are read into its fields. -/
theorem readMembers_members (m : Message) {depth : Nat}
    (reads : ∀ p ∈ m.payload, p.tree.toJson depth = .ok p) :
    record.readMembers depth {} (Json.memberTrees m.members) =
      .ok ⟨some m.op, some (.ofText m.kind.text), if m.project.isEmpty then none else some
        m.project, m.payload.map fun p => if p.isNull then none else some p⟩ := by
  -- Each member fills its own field, and one that is left out leaves its field as it is.
  have op (rest : List (String × Json)) (d : Draft) (absent : d.op = none) :
      record.readMembers depth d (Json.memberTrees (("op", .string m.op.word) :: rest)) =
        record.readMembers depth { d with op := some m.op } (Json.memberTrees rest) :=
    Record.readMembers_tree "op" (f := record.fields[0]) rfl (congrArg Option.isSome absent)
      (Field.fromTree_of d (m.op.reader_tree depth)) rest
  have kind (rest : List (String × Json)) (d : Draft) (absent : d.kind = none) :
      record.readMembers depth d (Json.memberTrees (("kind", .string m.kind.text) :: rest)) =
        record.readMembers depth { d with kind := some (.ofText m.kind.text) }
          (Json.memberTrees rest) :=
    Record.readMembers_tree "kind" (f := record.fields[1]) rfl (congrArg Option.isSome absent)
      (Field.fromTree_of d (Outcome.map_eq_ok.mpr ⟨_, Tree.text_tree depth m.kind.text, rfl⟩))
        rest
  have project (rest : List (String × Json)) (d : Draft) (absent : d.project = none) :
      record.readMembers depth d (Json.memberTrees
          ((if m.project.isEmpty then [] else [("project", .string m.project)]) ++ rest)) =
        record.readMembers depth
          { d with project := if m.project.isEmpty then none else some m.project }
          (Json.memberTrees rest) := by
    cases m.project.isEmpty with
    | true => simp [← absent]
    | false =>
      exact Record.readMembers_tree "project" (f := record.fields[2]) rfl
        (congrArg Option.isSome absent)
        (Field.fromTree_of d (Tree.text_tree depth m.project)) rest
  have payload (d : Draft) (absent : d.payload = none) :
      record.readMembers depth d (Json.memberTrees (match m.payload with
          | some p => [("payload", p)]
          | none => [])) =
        .ok { d with payload := m.payload.map fun p => if p.isNull then none else some p } := by
    cases found : m.payload with
    | none => simp [← absent, Json.memberTrees, Record.readMembers]
    | some p =>
      exact Record.readMembers_tree "payload" (f := record.fields[3]) rfl
        (congrArg Option.isSome absent)
        (Field.fromTree_of d (Tree.optional_any (reads p found))) []
  rw [members, List.append_assoc, List.cons_append, List.cons_append, List.nil_append, op _ _ rfl,
    kind _ _ rfl, project _ _ rfl, payload _ rfl]

/-- What holds of the numbers of a payload holds of those of the object that its message is printed
as. -/
theorem every_members (m : Message) {q : Number → Prop} (all : ∀ p ∈ m.payload, p.Every q) :
    (Json.object m.members).Every q := by
  refine .object fun p member => ?_
  unfold members at member
  rcases List.mem_append.mp member with texts | payload
  · -- All but the payload are strings.
    obtain ⟨text, string⟩ : ∃ text, p.2 = .string text := by
      revert texts
      cases m.project.isEmpty <;> simp <;> rintro (rfl | rfl | rfl) <;> exact ⟨_, rfl⟩
    rw [string]
    exact .string text
  · cases found : m.payload with
    | none => simp [found] at payload
    | some value =>
      obtain rfl : p = ("payload", value) := by simpa [found] using payload
      exact all value found

/-- A printed message is read with its kind named by the text of the kind, and a payload of `null`
is absent. -/
theorem ofText_print (m : Message) (exact : ∀ p ∈ m.payload, p.IsExact ∧ p.nesting ≤ 126) :
    ofText m.print =
      .ok { m with kind := .ofText m.kind.text, payload := m.payload.filter (!·.isNull) } := by
  have proper := m.every_members fun p there => (exact p there).1.every
  have reads := m.readMembers_members fun p there =>
    (exact p there).1.toJson_tree (Nat.lt_succ_of_le (exact p there).2)
  -- What was left out because it is empty reads as empty.
  have project : (if m.project.isEmpty then none else some m.project).getD "" = m.project := by
    by_cases empty : m.project = "" <;> simp [empty]
  have payload : (m.payload.map fun p => if p.isNull then none else some p).getD none =
      m.payload.filter (!·.isNull) := by
    cases m.payload with
    | none => rfl
    | some p => cases null : p.isNull <;> simp [null, Option.filter]
  rw [ofText, print_eq]
  refine Record.readText_print proper reads ?_
  simp only [record, project, payload, Option.getD_some]

end Message

namespace Event

/-- The members of the object that an event is printed as. -/
def members (e : Event) : List (String × Json) :=
  [("change", .string e.change.word), ("project", .string e.project), ("resource", e.resource)]

/-- An event is printed as an object. -/
theorem print_eq (e : Event) : e.print = (Json.object e.members).print := by
  rw [Json.print, Json.chars, Json.memberChars_eq_fieldChars]
  rfl

/-- The members of a printed event are read into its fields. -/
theorem readMembers_members (e : Event) {depth : Nat}
    (reads : e.resource.tree.toJson depth = .ok e.resource) :
    record.readMembers depth {} (Json.memberTrees e.members) =
      .ok ⟨some e.change, some e.project, some e.resource⟩ := by
  -- The three fields are read in the order in which they are printed.
  have change := Record.readMembers_tree (r := record) "change" (f := record.fields[0]) rfl rfl
    (Field.fromTree_of {} (e.change.reader_tree depth))
  have project := Record.readMembers_tree (r := record) "project" (f := record.fields[1]) rfl rfl
    (Field.fromTree_of { change := some e.change } (Tree.text_tree depth e.project))
  have resource := Record.readMembers_tree (r := record) "resource" (f := record.fields[2]) rfl rfl
    (Field.fromTree_of { change := some e.change, project := some e.project } reads)
  rw [members]
  exact (change _).trans ((project _).trans (resource _))

/-- A printed event is read back. -/
theorem ofText_print (e : Event) (exact : e.resource.IsExact)
    (shallow : e.resource.nesting ≤ 126) :
    ofText e.print = .ok e := by
  -- The change and the project are texts, and the resource is as told.
  have proper : (Json.object e.members).Every (·.numeral.IsProper) := by
    refine .object fun p member => ?_
    simp only [members, List.mem_cons, List.not_mem_nil, or_false] at member
    rcases member with rfl | rfl | rfl
    · exact .string _
    · exact .string _
    · exact exact.every
  have reads := e.readMembers_members (exact.toJson_tree (Nat.lt_succ_of_le shallow))
  rw [ofText, print_eq]
  exact Record.readText_print proper reads rfl

end Event

/-- Decoding undoes encoding.

A message is decoded to itself if its kind is canonical and its payload is not `null`.
Otherwise its kind is the one that the text of its kind names, and a payload of `null` is absent.

An event is decoded to itself.

What a message or an event carries has no doubles and at most 126 containers inside one another. -/
theorem decoding_undoes_encoding :
    (∀ m : Message, (∀ p ∈ m.payload, p.IsExact ∧ p.nesting ≤ 126) →
      Message.ofText m.print =
        .ok { m with kind := .ofText m.kind.text, payload := m.payload.filter (!·.isNull) }) ∧
    (∀ m : Message, (∀ p ∈ m.payload, p.IsExact ∧ p.nesting ≤ 126) →
      m.kind.IsCanonical →
      m.payload ≠ some .null → Message.ofText m.print = .ok m) ∧
    (∀ e : Event, e.resource.IsExact → e.resource.nesting ≤ 126 →
      Event.ofText e.print = .ok e) := by
  -- Only a payload that is null is lost, and only a kind with the name of another is read as that.
  refine ⟨Message.ofText_print, fun m exact canonical other => ?_, Event.ofText_print⟩
  have payload : m.payload.filter (!·.isNull) = m.payload := by
    cases found : m.payload with
    | none => rfl
    | some p => cases p <;> simp_all [Json.isNull]
  rw [m.ofText_print exact, canonical.ofText_text, payload]

/-- A message of every kind of value is decoded to itself, one with a payload of `null` to one
without, and an event to itself. -/
theorem decoding_undoes_encoding_nested :
    Message.ofText (Message.print ⟨.created, .known .artifact, "p\"\n", some (.object
        [("a", .array [.null, .bool true, .number (.integer (-9223372036854775808))]),
          ("b", .object [("", .string "\x01")])])⟩) =
      .ok ⟨.created, .known .artifact, "p\"\n", some (.object
        [("a", .array [.null, .bool true, .number (.integer (-9223372036854775808))]),
          ("b", .object [("", .string "\x01")])])⟩ ∧
    Message.ofText (Message.print ⟨.unknown, .unknown "Artifact", "", some .null⟩) =
      .ok ⟨.unknown, .known .artifact, "", none⟩ ∧
    Event.ofText (Event.print ⟨.replayed, "", .number (.integer 18446744073709551615)⟩) =
      .ok ⟨.replayed, "", .number (.integer 18446744073709551615)⟩ := by
  -- The two messages and the event meet what is asked of each.
  obtain ⟨named, exact, event⟩ := decoding_undoes_encoding
  refine ⟨exact _ (fun p there => ?_) ⟨"Artifact", rfl⟩ (by simp),
    named _ (fun p there => ?_), event _ (.integer (by decide) (by decide)) (by decide)⟩
  · obtain rfl := Option.some.inj there
    refine ⟨.object (by decide) ?_, by decide⟩
    simp only [List.forall_mem_cons]
    refine ⟨.array ?_, .object (by decide) ?_, by simp⟩
    · simp only [List.forall_mem_cons]
      exact ⟨.null, .bool true, .integer (by decide) (by decide), by simp⟩
    · simp only [List.forall_mem_cons]
      exact ⟨.string _, by simp⟩
  · obtain rfl := Option.some.inj there
    exact ⟨.null, by decide⟩

end WatchRelay
