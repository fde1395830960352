import WatchRelay.Proofs.Json.Nulls
import WatchRelay.Proofs.Settings.Decoding

/-! Objects that are read alike: what a record is read as, or the fault it is refused with, depends
on what is found under the names of its fields and on nothing else. -/

namespace WatchRelay

namespace Members

variable {fault : String → Json → Option Fault} {m m' : Members}

/-- The fault of the first member that has one. -/
def firstFault (fault : String → Json → Option Fault) (m : Members) : Option Fault :=
  m.findSome? fun p => fault p.1 p.2

/-- The first fault of members in the order of their keys is that of the least key under which there
is one. -/
theorem firstFault_eq_some (ordered : m.Pairwise (·.1 < ·.1)) {e : Fault} :
    firstFault fault m = some e ↔ ∃ key, (m.find? key).bind (fault key) = some e ∧
      ∀ before, before < key → (m.find? before).bind (fault before) = none := by
  induction m with
  | nil => simp [firstFault, find?]
  | cons first rest ih =>
    obtain ⟨below, others⟩ := List.pairwise_cons.mp ordered
    have ih := ih others
    have own : find? first.1 (first :: rest) = some first.2 := by simp [find?]
    have other {key : String} (differ : first.1 ≠ key) :
        find? key (first :: rest) = find? key rest := by
      simp [find?, differ]
    -- Nothing stands under a key that comes before the first.
    have absent {key : String} (less : key < first.1) : find? key (first :: rest) = none := by
      refine Option.eq_none_iff_forall_not_mem.mpr fun v found => ?_
      rcases List.mem_cons.mp (mem_of_find? found) with rfl | later
      · exact String.lt_irrefl _ less
      · exact String.lt_asymm less (below _ later)
    rw [firstFault, List.findSome?_cons]
    cases faulty : fault first.1 first.2 with
    | some e' =>
      -- The first member has a fault, which no later one can come before.
      constructor
      · rintro ⟨⟩
        exact ⟨first.1, by rw [own, Option.bind_some, faulty],
          fun before less => by rw [absent less, Option.bind_none]⟩
      · rintro ⟨key, found, before⟩
        by_cases same : first.1 = key
        · subst same
          rwa [own, Option.bind_some, faulty] at found
        · rw [other same] at found
          obtain ⟨v, there, -⟩ := Option.bind_eq_some_iff.mp found
          have none_ := before first.1 (below _ (mem_of_find? there))
          rw [own, Option.bind_some, faulty] at none_
          cases none_
    | none =>
      refine ih.trans (exists_congr fun key => ?_)
      by_cases same : first.1 = key
      · -- Under the first key there is no fault, neither here nor behind.
        subst same
        rw [own, Option.bind_some, faulty, find?_eq_none_of_ordered ordered]
        simp
      · rw [other same]
        refine and_congr_right fun _ => forall₂_congr fun before less => ?_
        by_cases first_ : first.1 = before
        · subst first_
          rw [own, Option.bind_some, faulty, find?_eq_none_of_ordered ordered, Option.bind_none]
        · rw [other first_]

/-- Members in which the same is at fault under each name have the same first fault. -/
theorem firstFault_congr (ordered : m.Pairwise (·.1 < ·.1)) (ordered' : m'.Pairwise (·.1 < ·.1))
    (same : ∀ name, (m.find? name).bind (fault name) = (m'.find? name).bind (fault name)) :
    firstFault fault m = firstFault fault m' := by
  refine Option.ext fun e => ?_
  simp only [firstFault_eq_some ordered, firstFault_eq_some ordered', same]

end Members

/-- The fault with which a value is refused as a field. -/
def Field.fault? {draft : Type} (f : Field draft) (d : draft) (v : Json) : Option Fault :=
  Outcome.fault? (f.fromJson d v)

namespace Record

variable {draft α : Type} {r : Record draft α}

/-- The fault of a member that is a field. -/
def faultAt (r : Record draft α) (name : String) (v : Json) : Option Fault :=
  (r.field? name).bind fun f => f.fault? r.empty v

/-- A record whose fields have names of their own, and each of which reads a value or refuses it
with a fault, whatever was read before. -/
structure IsSteady (r : Record draft α) : Prop where
  named : ∀ f ∈ r.fields, r.field? f.name = some f
  reads : ∀ f ∈ r.fields, ∀ v, IsReadable f v ∨ ∃ e, ∀ d, f.fromJson d v = .error e

/-- A field that is made of a reader reads a value or refuses it, whatever was read before. -/
theorem reads_of {β : Type} {name : String} {optional : Bool} {get : draft → Option β}
    {set : draft → β → draft}
    {tree : TreeReader β} {json : Json → Except Fault β} (v : Json) :
    IsReadable (Field.of name optional get set tree json) v ∨
      ∃ e, ∀ d, (Field.of name optional get set tree json).fromJson d v = .error e := by
  -- Whether the reader fails does not depend on the draft it would fill.
  cases read : json v with
  | ok x => exact .inl (isReadable_of read)
  | error e => exact .inr ⟨e, fun d => by simp [Field.of, read, Functor.map, Except.map]⟩

namespace IsSteady

variable (steady : r.IsSteady) {m m' : Members}
include steady

/-- Members are refused with their first fault. -/
theorem readObject_eq_error {e : Fault} (faulty : m.firstFault r.faultAt = some e) (d : draft) :
    r.readObject d m = .error e := by
  -- By induction on the members: one that is read passes the fault on to the rest.
  induction m generalizing d with
  | nil => cases faulty
  | cons member rest ih =>
    obtain ⟨key, v⟩ := member
    rw [Members.firstFault, List.findSome?_cons] at faulty
    rw [Record.readObject]
    split
    · next f named =>
      have here : r.faultAt key v = f.fault? r.empty v := by
        rw [faultAt, field?, named, Option.bind_some]
      rcases steady.reads f (field?_some named).1 v with readable | ⟨e', refused⟩
      · -- The field is read, so the fault comes later.
        obtain ⟨d₀, read₀⟩ := readable r.empty
        obtain ⟨d₁, read⟩ := readable d
        rw [here, Field.fault?, read₀] at faulty
        rw [read]
        exact ih faulty d₁
      · rw [here, Field.fault?, refused] at faulty
        cases faulty
        rw [refused]
        rfl
    · next unnamed =>
      have here : r.faultAt key v = none := by rw [faultAt, field?, unnamed, Option.bind_none]
      rw [here] at faulty
      exact ih faulty d

/-- Without a fault, what is found for a field can be read. -/
theorem isReadable (faultless : m.firstFault r.faultAt = none) {f : Field draft}
    (among : f ∈ r.fields) {v : Json}
    (found : m.find? f.name = some v) : IsReadable f v := by
  -- A field that refuses its member would be a fault of the object.
  rcases steady.reads f among v with readable | ⟨e, refused⟩
  · exact readable
  · have none_ := List.findSome?_eq_none_iff.mp faultless _ (Members.mem_of_find? found)
    rw [faultAt, steady.named f among, Option.bind_some, Field.fault?, refused] at none_
    cases none_

/-- Objects in which the same is at fault and the same is told of the draft are read alike. -/
theorem ofJson_congr {made : (String → Option Json) → draft} (law : r.IsMade made)
    (ordered : m.Pairwise (·.1 < ·.1)) (ordered' : m'.Pairwise (·.1 < ·.1))
    (faults : ∀ f ∈ r.fields, (m.find? f.name).bind (f.fault? r.empty) =
      (m'.find? f.name).bind (f.fault? r.empty))
    (same : r.finish (made m.find?) = r.finish (made m'.find?)) :
    r.ofJson (.object m) = r.ofJson (.object m') := by
  -- Either both are refused with the same first fault, or both are read, and then the drafts are
  -- told by what is found.
  have first : m.firstFault r.faultAt = m'.firstFault r.faultAt := by
    refine Members.firstFault_congr ordered ordered' fun name => ?_
    cases named : r.field? name with
    | none =>
      -- Nothing is at fault under a name that no field has.
      have harmless (v : Json) : r.faultAt name v = none := by rw [faultAt, named, Option.bind_none]
      simp [funext harmless]
    | some f =>
      obtain ⟨among, rfl⟩ := field?_some named
      have here : r.faultAt f.name = f.fault? r.empty := by
        funext v
        rw [faultAt, named, Option.bind_some]
      rw [here, faults f among]
  cases faulty : m.firstFault r.faultAt with
  | some e =>
    have refused (d : draft) := steady.readObject_eq_error faulty d
    have refused' (d : draft) := steady.readObject_eq_error (first ▸ faulty) d
    simp [Record.ofJson, refused, refused', bind, Except.bind]
  | none =>
    have read :=
      law.readObject ordered (fun f among v => steady.isReadable faulty among) fun _ => none
    have read' :=
      law.readObject ordered' (fun f among v => steady.isReadable (first ▸ faulty) among) fun _ =>
      none
    rw [← law.empty] at read read'
    simp [Record.ofJson, read, read', same, bind, Except.bind]

/-- An object is refused if what is found for one of the fields cannot be read. -/
theorem ofJson_object_refused {f : Field draft} (among : f ∈ r.fields) {v : Json}
    (found : m.find? f.name = some v)
    (refused : ¬ IsReadable f v) : ∃ e, r.ofJson (.object m) = .error e := by
  -- An object without a fault has a readable member for every field.
  cases faulty : m.firstFault r.faultAt with
  | some e =>
    exact ⟨e, by simp [Record.ofJson, steady.readObject_eq_error faulty, bind, Except.bind]⟩
  | none => exact absurd (steady.isReadable faulty among found) refused

/-- An array is refused if what stands in the place of one of the fields cannot be read. -/
theorem ofJson_array_refused {items : List Json} {i : Nat} {f : Field draft}
    (place : r.fields[i]? = some f) {v : Json}
    (found : items[i]? = some v) (refused : ¬ IsReadable f v) :
    ∃ e, r.ofJson (.array items) = .error e := by
  -- The fields that are still to be read are fields of the record, and the one that is refused is
  -- among them.
  have stops (toRead : List (Field draft)) (own : ∀ f ∈ toRead, f ∈ r.fields) (read : Nat)
    (d : draft) (i : Nat)
      (place : toRead[i]? = some f) (items : List Json) (found : items[i]? = some v) :
      ∃ e, r.readArray read d toRead items = .error e := by
    induction toRead generalizing items read d i with
    | nil => cases place
    | cons g more ih =>
      obtain ⟨among, others⟩ := List.forall_mem_cons.mp own
      cases items with
      | nil => cases found
      | cons item rest =>
        rw [Record.readArray]
        rcases steady.reads g among item with readable | ⟨e, faulty⟩
        · obtain ⟨d₁, reads⟩ := readable d
          rw [reads]
          cases i with
          | zero =>
            cases place
            cases found
            exact absurd readable refused
          | succ i => exact ih others _ _ i place rest found
        · exact ⟨e, by rw [faulty]; rfl⟩
  obtain ⟨e, stopped⟩ := stops r.fields (fun _ among => among) 0 r.empty i place items found
  exact ⟨e, by simp [Record.ofJson, stopped, bind, Except.bind]⟩

end IsSteady

/-- Values are changed without a field of the record seeing it. -/
def IsBlind (r : Record draft α) (change : Json → Json) : Prop :=
  ∀ f ∈ r.fields, ∀ d v, f.fromJson d (change v) = f.fromJson d v

namespace IsBlind

variable {change : Json → Json} (blind : r.IsBlind change)
include blind

/-- An object whose values are changed is read as before. -/
theorem ofJson_object (members : Members) :
    r.ofJson (.object (members.map fun m => (m.1, change m.2))) = r.ofJson (.object members) := by
  -- Member by member, each field reads the changed value as it reads the value.
  have reads (d : draft) : r.readObject d (members.map fun m => (m.1, change m.2)) =
      r.readObject d members := by
    induction members generalizing d with
    | nil => rfl
    | cons member rest ih =>
      rw [List.map_cons, Record.readObject, Record.readObject]
      split
      · next f named =>
        rw [blind f (field?_some named).1]
        exact congrArg _ (funext ih)
      · exact ih d
  rw [Record.ofJson, Record.ofJson, reads]

/-- An array whose items are changed is read as before. -/
theorem ofJson_array (items : List Json) :
    r.ofJson (.array (items.map change)) = r.ofJson (.array items) := by
  -- The fields that are still to be read are fields of the record.
  have reads (toRead : List (Field draft)) (own : ∀ f ∈ toRead, f ∈ r.fields) (read : Nat)
    (d : draft) :
      r.readArray read d toRead (items.map change) =
        (fun p => (p.1, p.2.map change)) <$> r.readArray read d toRead items := by
    induction toRead generalizing items read d with
    | nil => rfl
    | cons f more ih =>
      obtain ⟨among, others⟩ := List.forall_mem_cons.mp own
      cases items with
      | nil =>
        rw [List.map_nil, Record.readArray]
        split
        · exact ih [] others _ _
        · rfl
      | cons item rest =>
        rw [List.map_cons, Record.readArray, Record.readArray, blind f among]
        cases f.fromJson d item with
        | error e => rfl
        | ok d₁ => exact ih rest others _ _
  rw [Record.ofJson, Record.ofJson, reads r.fields fun _ among => among]
  cases r.readArray 0 r.empty r.fields items with
  | error e => rfl
  | ok p => simp [bind, Except.bind, Functor.map, Except.map]

end IsBlind

end Record

end WatchRelay
