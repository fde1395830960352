import WatchRelay.Json.Fault
import WatchRelay.Json.Numeral

/-! The lexemes of a JSON text: marks, words, numerals and strings as they are spelled. -/

namespace WatchRelay

/-- One piece of a spelled string: a plain character, a short escape, or a UTF-16 unit. -/
inductive Piece where
  | plain (c : Char)
  | short (c : Char)
  | unit (value : Nat)
deriving DecidableEq, Repr

/-- How a spelled string ends: with a quotation mark, or at a fault. -/
inductive StringEnd where
  | closed
  | control
  | badEscape
  | badHex
  | cut
deriving DecidableEq, Repr

/-- A string as it is spelled between its quotation marks. -/
structure Spelling where
  pieces : List Piece
  ending : StringEnd
deriving DecidableEq, Repr

namespace Spelling

/-- The fault of a string that does not end with a quotation mark. -/
def endFault : StringEnd → Option Fault
  | .closed => none
  | .control => some .controlCharacter
  | .badEscape | .badHex => some .invalidEscape
  | .cut => some .endOfString

/-- The fault of a string that ends right after a leading surrogate. -/
def surrogateEndFault : StringEnd → Fault
  | .closed | .control | .badEscape => .endOfHexEscape
  | .badHex => .invalidEscape
  | .cut => .endOfString

/-- Whether a unit is the first of a surrogate pair. -/
def isLeading (u : Nat) : Bool := 0xD800 ≤ u && u ≤ 0xDBFF

/-- Whether a unit is the second of a surrogate pair. -/
def isTrailing (u : Nat) : Bool := 0xDC00 ≤ u && u ≤ 0xDFFF

/-- The character of a surrogate pair. -/
def paired (lead trail : Nat) : Char :=
  Char.ofNat ((lead - 0xD800) * 0x400 + (trail - 0xDC00) + 0x10000)

/-- The characters that pieces stand for; surrogates must come in pairs. -/
def decode (ending : StringEnd) : List Piece → Except Fault (List Char)
  | [] => match endFault ending with
    | none => .ok []
    | some f => .error f
  | .plain c :: rest => (c :: ·) <$> decode ending rest
  | .short c :: rest => (c :: ·) <$> decode ending rest
  | .unit u :: rest =>
    if isTrailing u then .error .loneSurrogate
    else if !isLeading u then (Char.ofNat u :: ·) <$> decode ending rest
    else
      match rest with
      | [] => .error (surrogateEndFault ending)
      | .unit v :: rest =>
        if isTrailing v then (paired u v :: ·) <$> decode ending rest else .error .loneSurrogate
      | _ :: _ => .error .endOfHexEscape

/-- The text a spelling stands for. -/
def read (s : Spelling) : Except Fault String := String.ofList <$> decode s.ending s.pieces

/-- The fault of a spelling whose text does not matter. -/
def skip (s : Spelling) : Except Fault Unit :=
  match endFault s.ending with
  | none => .ok ()
  | some f => .error f

end Spelling

/-- Why a lexeme is none: no value starts so, the word `null` or a truth value is misspelt or cut
short, a number lacks a digit. -/
inductive Flaw where
  | stray
  | nullWord (cut : Bool)
  | truthWord (cut : Bool)
  | number (atEnd : Bool)
deriving DecidableEq, Repr

/-- A lexeme of a JSON text; the text behind a flaw or an unclosed string is not looked at. -/
inductive Lexeme where
  | openBracket
  | closeBracket
  | openBrace
  | closeBrace
  | comma
  | colon
  | null
  | bool (value : Bool)
  | numeral (n : Numeral)
  | string (s : Spelling)
  | flaw (f : Flaw)
deriving DecidableEq, Repr

namespace Lexeme

/-- The blanks between lexemes. -/
def isGap (c : Char) : Bool := c == ' ' || c == '\t' || c == '\n' || c == '\r'

/-- The value of a hexadecimal digit. -/
def hexValue? (c : Char) : Option Nat :=
  if '0' ≤ c && c ≤ '9' then some (c.toNat - 48)
  else if 'a' ≤ c && c ≤ 'f' then some (c.toNat - 87)
  else if 'A' ≤ c && c ≤ 'F' then some (c.toNat - 55)
  else none

/-- The UTF-16 unit of four hexadecimal digits. -/
def unit? (a b c d : Char) : Option Nat := do
  let a ← hexValue? a
  let b ← hexValue? b
  let c ← hexValue? c
  let d ← hexValue? d
  some (((a * 16 + b) * 16 + c) * 16 + d)

/-- The character of a short escape. -/
def escaped? : Char → Option Char
  | '"' => some '"'
  | '\\' => some '\\'
  | '/' => some '/'
  | 'b' => some '\x08'
  | 'f' => some '\x0c'
  | 'n' => some '\n'
  | 'r' => some '\r'
  | 't' => some '\t'
  | _ => none

/-- The number of UTF-8 bytes of characters. -/
def utf8Length (cs : List Char) : Nat := cs.foldl (fun n c => n + c.utf8Size) 0

/-- Puts a piece in front of a string's pieces. -/
def put (p : Piece) (r : List Piece × StringEnd × List Char) :
    List Piece × StringEnd × List Char :=
  (p :: r.1, r.2)

/-- The pieces of a string after its first quotation mark, its end, and what follows. -/
def stringBody : List Char → List Piece × StringEnd × List Char
  | [] => ([], .cut, [])
  | '"' :: rest => ([], .closed, rest)
  | '\\' :: 'u' :: a :: b :: c :: d :: rest =>
    match unit? a b c d with
    | some u => put (.unit u) (stringBody rest)
    | none => ([], .badHex, [])
  -- The four digits are bytes: fewer bytes than that end the text, more of them are no digits.
  | '\\' :: 'u' :: rest => ([], if 4 ≤ utf8Length rest then .badHex else .cut, [])
  | '\\' :: c :: rest =>
    match escaped? c with
    | some e => put (.short e) (stringBody rest)
    | none => ([], .badEscape, [])
  | ['\\'] => ([], .cut, [])
  | c :: rest => if c.toNat < 0x20 then ([], .control, []) else put (.plain c) (stringBody rest)

/-- What follows the letters of a word, or whether the text is cut before it differs from them. -/
def spells : List Char → List Char → Except Bool (List Char)
  | [], cs => .ok cs
  | _ :: _, [] => .error true
  | e :: es, c :: cs => if c = e then spells es cs else .error false

/-- The lexeme of a word whose first letter was read. -/
def word (value : Lexeme) (flaw : Bool → Flaw) (letters rest : List Char) : Lexeme × List Char :=
  match spells letters rest with
  | .ok rest => (value, rest)
  | .error cut => (.flaw (flaw cut), [])

/-- The digits at the front; at least one is needed. -/
def digits (cs : List Char) : Except Flaw (List Char × List Char) :=
  match cs.span Char.isDigit with
  | ([], rest) => .error (.number rest.isEmpty)
  | (ds, rest) => .ok (ds, rest)

/-- The whole part of a numeral: a zero alone, or digits that start with another. -/
def wholePart : List Char → Except Flaw (List Char × List Char)
  | '0' :: rest =>
    match rest with
    | c :: _ => if c.isDigit then .error (.number false) else .ok (['0'], rest)
    | [] => .ok (['0'], rest)
  | cs => digits cs

/-- The fraction of a numeral, if a point follows. -/
def fractionPart : List Char → Except Flaw (Option (List Char) × List Char)
  | '.' :: rest => (fun (ds, rest) => (some ds, rest)) <$> digits rest
  | cs => .ok (none, cs)

/-- The exponent of a numeral, if its letter follows. -/
def powerPart : List Char → Except Flaw (Option (Bool × List Char) × List Char)
  | c :: rest =>
    if c = 'e' ∨ c = 'E' then
      match rest with
      | '+' :: rest => (fun (ds, rest) => (some (false, ds), rest)) <$> digits rest
      | '-' :: rest => (fun (ds, rest) => (some (true, ds), rest)) <$> digits rest
      | rest => (fun (ds, rest) => (some (false, ds), rest)) <$> digits rest
    else .ok (none, c :: rest)
  | [] => .ok (none, [])

/-- The parts of a numeral after its sign. -/
def numeralParts (negative : Bool) (cs : List Char) : Except Flaw (Numeral × List Char) := do
  let (whole, cs) ← wholePart cs
  let (fraction, cs) ← fractionPart cs
  let (power, cs) ← powerPart cs
  .ok (⟨negative, whole, fraction, power⟩, cs)

/-- The numeral at the front. -/
def numeralAt (negative : Bool) (cs : List Char) : Lexeme × List Char :=
  match numeralParts negative cs with
  | .ok (n, rest) => (.numeral n, rest)
  | .error f => (.flaw f, [])

/-- The lexeme that starts with a character, and what follows it. -/
def startingWith (c : Char) (rest : List Char) : Lexeme × List Char :=
  match c with
  | '[' => (.openBracket, rest)
  | ']' => (.closeBracket, rest)
  | '\x7b' => (.openBrace, rest)
  | '\x7d' => (.closeBrace, rest)
  | ',' => (.comma, rest)
  | ':' => (.colon, rest)
  | 'n' => word .null .nullWord ['u', 'l', 'l'] rest
  | 't' => word (.bool true) .truthWord ['r', 'u', 'e'] rest
  | 'f' => word (.bool false) .truthWord ['a', 'l', 's', 'e'] rest
  | '"' =>
    let (pieces, ending, rest) := stringBody rest
    (.string ⟨pieces, ending⟩, rest)
  | '-' => numeralAt true rest
  | c => if c.isDigit then numeralAt false (c :: rest) else (.flaw .stray, [])

/-- The lexemes of a text, at most as many as the fuel. -/
def upTo : Nat → List Char → List Lexeme
  | 0, _ => []
  | fuel + 1, cs =>
    match cs.dropWhile isGap with
    | [] => []
    | c :: rest =>
      let (lexeme, rest) := startingWith c rest
      lexeme :: upTo fuel rest

/-- The lexemes of a text; each takes at least one character. -/
def ofText (cs : List Char) : List Lexeme := upTo cs.length cs

end Lexeme

end WatchRelay
