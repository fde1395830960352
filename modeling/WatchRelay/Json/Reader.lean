import WatchRelay.Json.Tree

/-! Reading a syntax tree as a JSON value, or skipping it where its content does not matter. -/

namespace WatchRelay

/-- The depth a reader may use up: the 128th container inside another is one too many. -/
def depthLimit : Nat := 128

/-- The depth left inside one more container. -/
def deeper (depth : Nat) : Except Fault Nat :=
  if depth ≤ 1 then .error .recursionLimit else .ok (depth - 1)

namespace Flaw

/-- The fault of a flaw that is read. -/
def fault : Flaw → Fault
  | .stray => .expectedValue
  | .nullWord cut | .truthWord cut => if cut then .endOfValue else .expectedIdent
  | .number atEnd => if atEnd then .endOfValue else .invalidNumber

/-- The fault of a flaw that is skipped. -/
def skipFault : Flaw → Fault
  | .number _ => .invalidNumber
  | f => f.fault

end Flaw

namespace Tree

/-- The fault of a missing value. -/
def missingFault : Option Lexeme → Fault
  | none => .endOfValue
  | some (.flaw f) => f.fault
  | some _ => .expectedValue

/-- The fault of a missing value in a skipped text. -/
def missingSkipFault : Option Lexeme → Fault
  | some (.flaw f) => f.skipFault
  | met => missingFault met

/-- The fault of a missing colon. -/
def colonFault : Option Lexeme → Fault
  | none => .endOfObject
  | some _ => .expectedColon

/-- How an array that is read ends. -/
def arrayEnd : Stop → Except Fault Unit
  | .closed | .broken => .ok ()
  | .opening _ => .error .endOfList
  | .comma _ => .error .trailingComma
  | .item none => .error .endOfList
  | .item (some _) => .error .expectedCommaOrBracket

/-- How an object that is read ends. -/
def objectEnd : Stop → Except Fault Unit
  | .closed | .broken => .ok ()
  | .opening none | .item none => .error .endOfObject
  | .opening (some _) => .error .keyNotString
  | .comma none => .error .endOfValue
  | .comma (some .closeBrace) => .error .trailingComma
  | .comma (some _) => .error .keyNotString
  | .item (some _) => .error .expectedCommaOrBrace

/-- How a skipped array ends. -/
def arraySkipEnd : Stop → Except Fault Unit
  | .comma _ => .error .expectedValue
  | stop => arrayEnd stop

/-- How a skipped object ends. -/
def objectSkipEnd : Stop → Except Fault Unit
  | .comma none => .error .endOfObject
  | .comma (some _) => .error .keyNotString
  | stop => objectEnd stop

/-- The number of a numeral. -/
def readNumeral (n : Numeral) : Except Fault Number :=
  match n.read with
  | some n => .ok n
  | none => .error .numberOutOfRange

mutual

/-- The value of a tree, with containers nested no deeper than the depth allows. -/
def toJson (depth : Nat) : Tree → Except Fault Json
  | .null => .ok .null
  | .bool b => .ok (.bool b)
  | .numeral n => Json.number <$> readNumeral n
  | .string s => Json.string <$> s.read
  | .array items stop => do
    let depth ← deeper depth
    let items ← itemsToJson depth items
    arrayEnd stop
    .ok (.array items)
  | .object members stop => do
    let depth ← deeper depth
    let members ← membersToJson depth members
    objectEnd stop
    .ok (.object (Members.ofList members))
  | .missing met => .error (missingFault met)
  | .noColon met => .error (colonFault met)

/-- The values of the items of an array. -/
def itemsToJson (depth : Nat) : List Tree → Except Fault (List Json)
  | [] => .ok []
  | item :: rest => do
    let item ← toJson depth item
    let rest ← itemsToJson depth rest
    .ok (item :: rest)

/-- The keys and values of the members of an object, in the order of the text. -/
def membersToJson (depth : Nat) : List (Spelling × Tree) → Except Fault (List (String × Json))
  | [] => .ok []
  | (key, value) :: rest => do
    let key ← key.read
    let value ← toJson depth value
    let rest ← membersToJson depth rest
    .ok ((key, value) :: rest)

end

mutual

/-- Checks the syntax of a tree alone, at any depth and for numbers of any size. -/
def skip : Tree → Except Fault Unit
  | .null | .bool _ | .numeral _ => .ok ()
  | .string s => s.skip
  | .array items stop => do
    skipItems items
    arraySkipEnd stop
  | .object members stop => do
    skipMembers members
    objectSkipEnd stop
  | .missing met => .error (missingSkipFault met)
  | .noColon met => .error (colonFault met)

/-- Checks the syntax of the items of an array. -/
def skipItems : List Tree → Except Fault Unit
  | [] => .ok ()
  | item :: rest => do
    skip item
    skipItems rest

/-- Checks the syntax of the members of an object. -/
def skipMembers : List (Spelling × Tree) → Except Fault Unit
  | [] => .ok ()
  | (key, value) :: rest => do
    key.skip
    skip value
    skipMembers rest

end

end Tree

/-- A reader of one tree, given the depth it may use. -/
abbrev TreeReader (α : Type) := Nat → Tree → Except Fault α

/-- Reads a whole text: one value and nothing but blanks behind it. -/
def readText {α : Type} (read : TreeReader α) (text : String) : Except Fault α := do
  let (tree, trailing) := Tree.ofText text
  let value ← read depthLimit tree
  if trailing then .error .trailingCharacters else .ok value

/-- The value of a JSON text. -/
def Json.ofText (text : String) : Except Fault Json := readText Tree.toJson text

end WatchRelay
