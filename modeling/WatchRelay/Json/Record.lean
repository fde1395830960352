import WatchRelay.Json.Reader

/-! Reading typed data from JSON: texts, integers, words of a fixed set, and records with named
fields, from the tree of a text or from a value. -/

namespace WatchRelay

namespace Tree

/-- The fault of a tree of the wrong type; a number is read first, a container is not. -/
def mismatch (expected : String) : Tree → Fault
  | .null => .invalidType .null expected
  | .bool b => .invalidType (.bool b) expected
  | .numeral n =>
    match readNumeral n with
    | .ok n => .invalidType (.number n) expected
    | .error f => f
  | .string s =>
    match s.read with
    | .ok s => .invalidType (.string s) expected
    | .error f => f
  | .array _ _ => .invalidType .sequence expected
  | .object _ _ => .invalidType .map expected
  | .missing met => missingFault met
  | .noColon met => colonFault met

/-- Reads a text, which is named as expected where there is none. -/
def readString (expected : String) : Tree → Except Fault String
  | .string s => s.read
  | t => .error (t.mismatch expected)

/-- Reads a text. -/
def text : TreeReader String := fun _ t => readString "a string" t

/-- Reads a value of any kind. -/
def any : TreeReader Json := fun depth t => t.toJson depth

/-- Reads `null` as nothing; a word that starts like it is taken for it. -/
def optional {α : Type} (read : TreeReader α) : TreeReader (Option α) := fun depth t =>
  match t with
  | .null => .ok none
  | .missing (some (.flaw (.nullWord cut))) => .error (Flaw.nullWord cut).fault
  | t => some <$> read depth t

/-- Reads what must be `null`. -/
def unit : Tree → Except Fault Unit
  | .null => .ok ()
  | t => .error (t.mismatch "unit")

/-- The fault where the single member of a word's object form is not followed by its end. -/
def wordEnd : Stop → Except Fault Unit
  | .closed | .broken => .ok ()
  | .opening none | .item none => .error .endOfObject
  | _ => .error .expectedValue

/-- The fault of the object form of a word that has no first key.

What stands in place of the key is faulted as in any other object.
So `1` there is a key that is no text, not an integer where a word is expected. -/
def wordKeyFault : Stop → Fault
  | .opening none => .endOfObject
  | .opening (some _) => .keyNotString
  | _ => .expectedValue

/-- Reads a word, alone or as the only key of an object whose value is `null`. -/
def word {α : Type} (choose : String → Except Fault α) : TreeReader α := fun depth t =>
  match t with
  | .string s => do choose (← s.read)
  | .object members stop => do
    let _ ← deeper depth
    match members with
    | [] => .error (wordKeyFault stop)
    | (key, value) :: rest =>
      let chosen ← choose (← key.read)
      match value with
      | .noColon met => .error (colonFault met)
      | value => unit value
      if rest.isEmpty then wordEnd stop else .error .expectedValue
      .ok chosen
  | .missing (some (.flaw _)) => .error .expectedValue
  | .missing met => .error (missingFault met)
  | _ => .error .expectedValue

/-- Reads an integer from zero up to a bound. -/
def natural (width : String) (bound : Nat) : TreeReader Nat := fun _ t =>
  match t with
  | .numeral n => do
    match ← readNumeral n with
    | .integer i =>
      if 0 ≤ i ∧ i < bound then .ok i.toNat else .error (.invalidInteger i width)
    | .double d => .error (.invalidType (.number (.double d)) width)
  | t => .error (t.mismatch width)

end Tree

namespace Json

/-- What a value is called where another was expected. -/
def met : Json → Met
  | .null => .null
  | .bool b => .bool b
  | .number n => .number n
  | .string s => .string s
  | .array _ => .sequence
  | .object _ => .map

/-- Reads a text from a value. -/
def text : Json → Except Fault String
  | .string s => .ok s
  | v => .error (.invalidType v.met "a string")

/-- Reads an integer from zero up to a bound from a value. -/
def natural (width : String) (bound : Nat) : Json → Except Fault Nat
  | .number (.integer i) =>
    if 0 ≤ i ∧ i < bound then .ok i.toNat else .error (.invalidInteger i width)
  | v => .error (.invalidType v.met width)

end Json

/-- A field of a record, as it is read into a draft of the record. -/
structure Field (draft : Type) where
  name : String
  /-- Whether the record can do without it. -/
  optional : Bool
  /-- Whether the draft has it already. -/
  filled : draft → Bool
  fromTree : draft → TreeReader draft
  fromJson : draft → Json → Except Fault draft

namespace Field

/-- A field with a reader for each source and a way to keep what was read. -/
def of {draft α : Type} (name : String) (optional : Bool) (get : draft → Option α)
    (set : draft → α → draft) (tree : TreeReader α) (json : Json → Except Fault α) :
    Field draft where
  name := name
  optional := optional
  filled d := (get d).isSome
  fromTree d depth t := set d <$> tree depth t
  fromJson d v := set d <$> json v

end Field

/-- A record type: its name, its fields in order, and how a draft becomes a record. -/
structure Record (draft α : Type) where
  name : String
  fields : List (Field draft)
  empty : draft
  finish : draft → Except Fault α

namespace Record

variable {draft α : Type}

/-- How the record is named where another value stands. -/
def expected (r : Record draft α) : String := "struct " ++ r.name

/-- How the record is named where an array has too few items. -/
def expectedItems (r : Record draft α) : String :=
  let count := r.fields.length
  r.expected ++ " with " ++ String.ofList (decimalChars count) ++
    (if count = 1 then " element" else " elements")

/-- Reads the members of an object into a draft; unknown ones are skipped. -/
def readMembers (r : Record draft α) (depth : Nat) : draft → List (Spelling × Tree) →
    Except Fault draft
  | d, [] => .ok d
  | d, (key, value) :: rest => do
    let key ← key.read
    match r.fields.find? (·.name == key) with
    | some field =>
      if field.filled d then .error (.duplicateField key)
      else
        match value with
        | .noColon met => .error (Tree.colonFault met)
        | value => readMembers r depth (← field.fromTree d depth value) rest
    | none => do
      value.skip
      readMembers r depth d rest

/-- How the items of an array end after the last field. -/
def itemsEnd (rest : List Tree) : Stop → Except Fault Unit
  | .comma _ => if rest.isEmpty then .error .trailingComma else .error .trailingCharacters
  | .item (some _) => .error .trailingCharacters
  | .item none | .opening _ =>
    if rest.isEmpty then .error .endOfList else .error .trailingCharacters
  | .closed | .broken => if rest.isEmpty then .ok () else .error .trailingCharacters

/-- Reads the items of an array into a draft, one for each field in order. -/
def readItems (r : Record draft α) (depth : Nat) (stop : Stop) (read : Nat) :
    draft → List (Field draft) → List Tree → Except Fault (draft × List Tree)
  | d, [], items => .ok (d, items)
  | d, field :: fields, [] => do
    Tree.arrayEnd stop
    if field.optional then readItems r depth stop (read + 1) d fields []
    else .error (.invalidLength read r.expectedItems)
  | d, field :: fields, item :: items => do
    readItems r depth stop (read + 1) (← field.fromTree d depth item) fields items

/-- Reads a record from the tree of an object, or of an array of its fields. -/
def ofTree (r : Record draft α) : TreeReader α := fun depth t =>
  match t with
  | .object members stop => do
    let depth ← deeper depth
    let d ← r.readMembers depth r.empty members
    Tree.objectEnd stop
    r.finish d
  | .array items stop => do
    let depth ← deeper depth
    let (d, rest) ← r.readItems depth stop 0 r.empty r.fields items
    let value ← r.finish d
    itemsEnd rest stop
    .ok value
  | t => .error (t.mismatch r.expected)

/-- Reads the members of an object value into a draft. -/
def readObject (r : Record draft α) : draft → Members → Except Fault draft
  | d, [] => .ok d
  | d, (key, value) :: rest =>
    match r.fields.find? (·.name == key) with
    | some field => do readObject r (← field.fromJson d value) rest
    | none => readObject r d rest

/-- Reads the items of an array value into a draft. -/
def readArray (r : Record draft α) (read : Nat) :
    draft → List (Field draft) → List Json → Except Fault (draft × List Json)
  | d, [], items => .ok (d, items)
  | d, field :: fields, [] =>
    if field.optional then readArray r (read + 1) d fields []
    else .error (.invalidLength read r.expectedItems)
  | d, field :: fields, item :: items => do
    readArray r (read + 1) (← field.fromJson d item) fields items

/-- Reads a record from a value. -/
def ofJson (r : Record draft α) : Json → Except Fault α
  | .object members => do r.finish (← r.readObject r.empty members)
  | .array items => do
    let (d, rest) ← r.readArray 0 r.empty r.fields items
    let value ← r.finish d
    if rest.isEmpty then .ok value
    else .error (.invalidLength items.length "fewer elements in array")
  | v => .error (.invalidType v.met r.expected)

end Record

end WatchRelay
