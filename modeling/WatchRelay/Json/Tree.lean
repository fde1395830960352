import WatchRelay.Json.Lexeme

/-! The syntax tree of a JSON text, which may break off where the text does. -/

namespace WatchRelay

/-- Where a list of items or members stops. -/
inductive Stop where
  | closed
  /-- Neither an item nor the end follows the opening mark. -/
  | opening (met : Option Lexeme)
  /-- No key follows a comma. -/
  | comma (met : Option Lexeme)
  /-- Neither a comma nor the end follows an item. -/
  | item (met : Option Lexeme)
  /-- The last item breaks off. -/
  | broken
deriving DecidableEq, Repr

/-- The syntax tree of a text up to the place where it breaks off. -/
inductive Tree where
  | null
  | bool (value : Bool)
  | numeral (n : Numeral)
  | string (s : Spelling)
  | array (items : List Tree) (stop : Stop)
  | object (members : List (Spelling × Tree)) (stop : Stop)
  /-- No value stands where one is awaited. -/
  | missing (met : Option Lexeme)
  /-- No colon stands between a key and its value. -/
  | noColon (met : Option Lexeme)
deriving Repr

namespace Tree

/-- A container whose end is not reached yet; items stand in reverse. -/
inductive Frame where
  | array (items : List Tree)
  | object (members : List (Spelling × Tree)) (key : Spelling)
deriving Repr

/-- The tree of a text that breaks off at `tree` inside the given containers. -/
def abandon : List Frame → Tree → Tree
  | [], tree => tree
  | .array items :: frames, tree => abandon frames (.array (tree :: items).reverse .broken)
  | .object members key :: frames, tree =>
    abandon frames (.object ((key, tree) :: members).reverse .broken)

/-- What the reader of lexemes awaits. -/
inductive Awaited where
  | value
  /-- An item or the end, after the opening mark of an array. -/
  | firstItem
  /-- An item, after a comma. -/
  | nextItem
  /-- A key or the end, after the opening mark of an object. -/
  | firstKey
  /-- A key, after a comma and these members. -/
  | nextKey (members : List (Spelling × Tree))
  | colon (members : List (Spelling × Tree)) (key : Spelling)
  /-- What follows a complete value. -/
  | next (value : Tree)
deriving Repr

/-- What a lexeme leads to: further reading, or the whole tree of a text that breaks off. -/
inductive Move where
  | go (frames : List Frame) (awaited : Awaited)
  | stop (tree : Tree)

/-- The move at a lexeme where a value is awaited. -/
def startValue (frames : List Frame) : Lexeme → Move
  | .null => .go frames (.next .null)
  | .bool b => .go frames (.next (.bool b))
  | .numeral n => .go frames (.next (.numeral n))
  | .string s => .go frames (.next (.string s))
  | .openBracket => .go frames .firstItem
  | .openBrace => .go frames .firstKey
  | l => .stop (abandon frames (.missing (some l)))

/-- The move at a lexeme. -/
def move (frames : List Frame) (awaited : Awaited) (l : Lexeme) : Move :=
  match awaited with
  | .value => startValue frames l
  | .firstItem =>
    match l with
    | .closeBracket => .go frames (.next (.array [] .closed))
    | l => startValue (.array [] :: frames) l
  | .nextItem =>
    match l, frames with
    | .closeBracket, .array items :: frames =>
      .stop (abandon frames (.array items.reverse (.comma (some .closeBracket))))
    | l, frames => startValue frames l
  | .firstKey =>
    match l with
    | .closeBrace => .go frames (.next (.object [] .closed))
    | .string s => .go frames (.colon [] s)
    | l => .stop (abandon frames (.object [] (.opening (some l))))
  | .nextKey members =>
    match l with
    | .string s => .go frames (.colon members s)
    | l => .stop (abandon frames (.object members.reverse (.comma (some l))))
  | .colon members key =>
    match l with
    | .colon => .go (.object members key :: frames) .value
    | l => .stop (abandon (.object members key :: frames) (.noColon (some l)))
  | .next tree =>
    match frames with
    | [] => .stop tree
    | .array items :: frames =>
      match l with
      | .comma => .go (.array (tree :: items) :: frames) .nextItem
      | .closeBracket => .go frames (.next (.array (tree :: items).reverse .closed))
      | l => .stop (abandon frames (.array (tree :: items).reverse (.item (some l))))
    | .object members key :: frames =>
      match l with
      | .comma => .go frames (.nextKey ((key, tree) :: members))
      | .closeBrace => .go frames (.next (.object ((key, tree) :: members).reverse .closed))
      | l => .stop (abandon frames (.object ((key, tree) :: members).reverse (.item (some l))))

/-- The tree of a text that ends where something is awaited. -/
def endOf (frames : List Frame) (awaited : Awaited) : Tree :=
  match awaited with
  | .value | .nextItem => abandon frames (.missing none)
  | .firstItem => abandon frames (.array [] (.opening none))
  | .firstKey => abandon frames (.object [] (.opening none))
  | .nextKey members => abandon frames (.object members.reverse (.comma none))
  | .colon members key => abandon (.object members key :: frames) (.noColon none)
  | .next tree =>
    match frames with
    | [] => tree
    | .array items :: frames => abandon frames (.array (tree :: items).reverse (.item none))
    | .object members key :: frames =>
      abandon frames (.object ((key, tree) :: members).reverse (.item none))

/-- Reads the tree at the front of the lexemes inside open containers, and gives what follows. -/
def build : List Frame → Awaited → List Lexeme → Tree × List Lexeme
  | [], .next tree, ls => (tree, ls)
  | frames, awaited, [] => (endOf frames awaited, [])
  | frames, awaited, l :: ls =>
    match move frames awaited l with
    | .go frames awaited => build frames awaited ls
    | .stop tree => (tree, [])

/-- The tree at the front of a text, and whether anything follows it. -/
def ofText (text : String) : Tree × Bool :=
  let (tree, rest) := build [] .value (Lexeme.ofText text.toList)
  (tree, !rest.isEmpty)

end Tree

end WatchRelay
