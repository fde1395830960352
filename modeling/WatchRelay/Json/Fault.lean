import WatchRelay.Json.Printer
import WatchRelay.Text.Quoted

/-! Why a JSON text or value cannot be read, and how each cause is worded. -/

namespace WatchRelay

/-- What was met where something else was expected. -/
inductive Met where
  | null
  | bool (value : Bool)
  | number (value : Number)
  | string (text : String)
  | sequence
  | map
deriving DecidableEq, Repr

namespace Met

/-- How what was met is named. -/
def describe : Met → String
  | .null => "null"
  | .bool b => "boolean `" ++ (if b then "true" else "false") ++ "`"
  | .number (.integer n) => "integer `" ++ String.ofList (integerChars n) ++ "`"
  | .number (.double d) => "floating point `" ++ String.ofList d.chars ++ "`"
  | .string s => "string " ++ quoted s
  | .sequence => "sequence"
  | .map => "map"

end Met

/-- Why reading JSON failed. -/
inductive Fault where
  | endOfValue
  | endOfList
  | endOfObject
  | endOfString
  | expectedValue
  | expectedIdent
  | expectedColon
  | expectedCommaOrBracket
  | expectedCommaOrBrace
  | keyNotString
  | trailingComma
  | trailingCharacters
  | invalidNumber
  | numberOutOfRange
  | invalidEscape
  | controlCharacter
  | endOfHexEscape
  | loneSurrogate
  | recursionLimit
  | missingField (name : String)
  | duplicateField (name : String)
  | unknownVariant (name : String) (expected : List String)
  | invalidType (met : Met) (expected : String)
  | invalidInteger (value : Int) (expected : String)
  | invalidLength (length : Nat) (expected : String)
deriving DecidableEq, Repr

/-- The three kinds of fault: broken syntax, a text that ends early, and unfitting data. -/
inductive FaultCategory where
  | syntactic
  | ended
  | data
deriving DecidableEq, Repr

namespace Fault

/-- The kind of a fault. -/
def category : Fault → FaultCategory
  | .endOfValue | .endOfList | .endOfObject | .endOfString => .ended
  | .missingField _ | .duplicateField _ | .unknownVariant _ _ | .invalidType _ _
  | .invalidInteger _ _ | .invalidLength _ _ => .data
  | _ => .syntactic

/-- A name between grave accents. -/
def ticked (name : String) : String := "`" ++ name ++ "`"

/-- The wording of a fault. -/
def message : Fault → String
  | .endOfValue => "EOF while parsing a value"
  | .endOfList => "EOF while parsing a list"
  | .endOfObject => "EOF while parsing an object"
  | .endOfString => "EOF while parsing a string"
  | .expectedValue => "expected value"
  | .expectedIdent => "expected ident"
  | .expectedColon => "expected `:`"
  | .expectedCommaOrBracket => "expected `,` or `]`"
  | .expectedCommaOrBrace => "expected `,` or `\x7d`"
  | .keyNotString => "key must be a string"
  | .trailingComma => "trailing comma"
  | .trailingCharacters => "trailing characters"
  | .invalidNumber => "invalid number"
  | .numberOutOfRange => "number out of range"
  | .invalidEscape => "invalid escape"
  | .controlCharacter => "control character (\\u0000-\\u001F) found while parsing a string"
  | .endOfHexEscape => "unexpected end of hex escape"
  | .loneSurrogate => "lone leading surrogate in hex escape"
  | .recursionLimit => "recursion limit exceeded"
  | .missingField name => "missing field " ++ ticked name
  | .duplicateField name => "duplicate field " ++ ticked name
  | .unknownVariant name expected =>
    "unknown variant " ++ ticked name ++ ", expected one of " ++
      String.intercalate ", " (expected.map ticked)
  | .invalidType met expected => "invalid type: " ++ met.describe ++ ", expected " ++ expected
  | .invalidInteger value expected =>
    "invalid value: " ++ (Met.number (.integer value)).describe ++ ", expected " ++ expected
  | .invalidLength length expected =>
    "invalid length " ++ String.ofList (decimalChars length) ++ ", expected " ++ expected

end Fault

end WatchRelay
