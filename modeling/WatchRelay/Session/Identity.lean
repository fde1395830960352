import WatchRelay.Json.Printer

/-! The ids of sessions: texts that begin with the time, so that they sort by when they were
made. -/

namespace WatchRelay

/-- What a new id is made of: the milliseconds of the clock, and what is drawn at random. -/
structure FreshId where
  millis : BitVec 48
  /-- What is drawn for the group of the version. -/
  high : BitVec 12
  /-- What is drawn for the groups behind it. -/
  low : BitVec 62
deriving DecidableEq, Repr

/-- The hexadecimal digits of a number in so many places, the highest first. -/
def hexDigits : Nat → Nat → List Char
  | 0, _ => []
  | places + 1, n => hexDigits places (n / 16) ++ [hexDigit (n % 16)]

namespace FreshId

/-- The digits of an id in groups: the time in two, the version `7` with what is drawn for it, and
the variant, which is the bits `10`, with the rest. -/
def groups (id : FreshId) : List (List Char) :=
  [hexDigits 8 (id.millis.toNat / 0x10000), hexDigits 4 (id.millis.toNat % 0x10000),
    '7' :: hexDigits 3 id.high.toNat, hexDigits 4 (0x8000 + id.low.toNat / 0x1000000000000),
    hexDigits 12 (id.low.toNat % 0x1000000000000)]

/-- The text of an id. -/
def text (id : FreshId) : String := String.ofList (['-'].intercalate id.groups)

/-- The character of a text that tells the version of its id. -/
def version? (text : String) : Option Char := text.toList[14]?

end FreshId

end WatchRelay
