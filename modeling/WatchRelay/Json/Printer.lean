import WatchRelay.Decimal.Shortest
import WatchRelay.Json.Value

/-! The compact text of a JSON value: no blanks, short escapes, shortest numbers. -/

namespace WatchRelay

/-- A hexadecimal digit in lower case. -/
def hexDigit (n : Nat) : Char := if n < 10 then Char.ofNat (48 + n) else Char.ofNat (87 + n)

/-- How one character stands in a JSON string. -/
def jsonChar (c : Char) : List Char :=
  match c with
  | '"' => ['\\', '"']
  | '\\' => ['\\', '\\']
  | '\x08' => ['\\', 'b']
  | '\x0c' => ['\\', 'f']
  | '\n' => ['\\', 'n']
  | '\r' => ['\\', 'r']
  | '\t' => ['\\', 't']
  | c =>
    if c.toNat < 0x20 then
      ['\\', 'u', '0', '0', hexDigit (c.toNat / 16), hexDigit (c.toNat % 16)]
    else [c]

/-- A JSON string with its quotation marks. -/
def jsonString (text : String) : List Char :=
  '"' :: text.toList.flatMap jsonChar ++ ['"']

/-- The digits of an integer, after a minus sign when it is negative. -/
def integerChars (n : Int) : List Char :=
  if n < 0 then '-' :: decimalChars n.natAbs else decimalChars n.natAbs

/-- The text of a number. -/
def Number.chars : Number → List Char
  | .integer n => integerChars n
  | .double d => d.chars

namespace Json

mutual

/-- The compact text of a value as characters. -/
def chars : Json → List Char
  | .null => ['n', 'u', 'l', 'l']
  | .bool true => ['t', 'r', 'u', 'e']
  | .bool false => ['f', 'a', 'l', 's', 'e']
  | .number n => n.chars
  | .string s => jsonString s
  | .array items => '[' :: itemChars items ++ [']']
  | .object members => '\x7b' :: memberChars members ++ ['\x7d']

/-- The items of an array, separated by commas. -/
def itemChars : List Json → List Char
  | [] => []
  | [item] => item.chars
  | item :: next :: rest => item.chars ++ ',' :: itemChars (next :: rest)

/-- The members of an object, separated by commas. -/
def memberChars : List (String × Json) → List Char
  | [] => []
  | [(key, value)] => jsonString key ++ ':' :: value.chars
  | (key, value) :: next :: rest =>
    jsonString key ++ ':' :: (value.chars ++ ',' :: memberChars (next :: rest))

end

/-- The compact text of a value. -/
def print (value : Json) : String := String.ofList value.chars

end Json

/-- The fields of a record in their own order, each with the text of its value. -/
def fieldChars : List (String × List Char) → List Char
  | [] => []
  | [(name, value)] => jsonString name ++ ':' :: value
  | (name, value) :: next :: rest =>
    jsonString name ++ ':' :: (value ++ ',' :: fieldChars (next :: rest))

/-- The compact text of a record. -/
def recordChars (fields : List (String × List Char)) : List Char :=
  '\x7b' :: fieldChars fields ++ ['\x7d']

end WatchRelay
