import WatchRelay.Json.Lexeme
import WatchRelay.Text.Utf8

/-! Percent-encoding: a percent sign and two hexadecimal digits stand for a byte. -/

namespace WatchRelay

/-- The bytes a text stands for; a percent sign without two digits stands for itself. -/
def percentBytes : List Char → List UInt8
  | [] => []
  | '%' :: a :: b :: rest =>
    match Lexeme.hexValue? a, Lexeme.hexValue? b with
    | some high, some low => (high * 16 + low).toUInt8 :: percentBytes rest
    | _, _ => utf8Bytes "%" ++ percentBytes (a :: b :: rest)
  | c :: rest => utf8Bytes (String.singleton c) ++ percentBytes rest
termination_by text => text.length

/-- The text a percent-encoded text stands for, unless its bytes are not UTF-8. -/
def percentDecode (text : String) : Option String :=
  (Utf8.decode (percentBytes text.toList)).toOption

end WatchRelay
