import WatchRelay.Text.Printable

/-! Text between quotation marks, with escapes for what would not be seen. -/

namespace WatchRelay

/-- The lower-case hexadecimal digits of a number, without leading zeros. -/
def hexChars (n : Nat) : List Char := Nat.toDigits 16 n

/-- How one character stands inside quotation marks. -/
def quotedChar (c : Char) : List Char :=
  match c with
  | '\t' => ['\\', 't']
  | '\r' => ['\\', 'r']
  | '\n' => ['\\', 'n']
  | '\x00' => ['\\', '0']
  | '"' => ['\\', '"']
  | '\\' => ['\\', '\\']
  | c => if isShown c then [c] else ['\\', 'u', '\x7b'] ++ hexChars c.toNat ++ ['\x7d']

/-- The text between quotation marks. -/
def quoted (text : String) : String :=
  String.ofList ('"' :: text.toList.flatMap quotedChar ++ ['"'])

end WatchRelay
