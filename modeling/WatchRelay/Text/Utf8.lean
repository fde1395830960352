/-! Reading bytes as UTF-8, with the place and length of the first fault. -/

namespace WatchRelay

/-- Why bytes are not UTF-8: after `validUpTo` bytes stand `length` bytes that no character has, or,
with no length, the text ends inside a character. -/
structure Utf8Fault where
  validUpTo : Nat
  length : Option Nat
deriving DecidableEq, Repr

namespace Utf8Fault

/-- The text of the fault. -/
def message (f : Utf8Fault) : String :=
  match f.length with
  | some n => s!"invalid utf-8 sequence of {n} bytes from index {f.validUpTo}"
  | none => s!"incomplete utf-8 byte sequence from index {f.validUpTo}"

end Utf8Fault

namespace Utf8

/-- Whether a byte continues a character. -/
def isContinuation (b : UInt8) : Bool := 0x80 ≤ b && b ≤ 0xBF

/-- The bounds of the byte that may follow the first byte of a longer character, and how many bytes
follow it in all; surrogates, overlong forms and values above 0x10FFFF are left out. -/
def follow (first : UInt8) : Option (UInt8 × UInt8 × Nat) :=
  if 0xC2 ≤ first && first ≤ 0xDF then some (0x80, 0xBF, 1)
  else if first == 0xE0 then some (0xA0, 0xBF, 2)
  else if first == 0xED then some (0x80, 0x9F, 2)
  else if 0xE1 ≤ first && first ≤ 0xEF then some (0x80, 0xBF, 2)
  else if first == 0xF0 then some (0x90, 0xBF, 3)
  else if 0xF1 ≤ first && first ≤ 0xF3 then some (0x80, 0xBF, 3)
  else if first == 0xF4 then some (0x80, 0x8F, 3)
  else none

/-- The value of a continuation byte. -/
def low6 (b : UInt8) : Nat := b.toNat % 64

/-- The characters of the bytes from position `at` on, or the first fault. -/
def decodeFrom (pos : Nat) : List UInt8 → Except Utf8Fault (List Char)
  | [] => .ok []
  | a :: rest =>
    if a < 0x80 then (Char.ofNat a.toNat :: ·) <$> decodeFrom (pos + 1) rest
    else
      match follow a with
      | none => .error ⟨pos, some 1⟩
      | some (low, high, extra) =>
        match rest with
        | [] => .error ⟨pos, none⟩
        | b :: rest =>
          if b < low || high < b then .error ⟨pos, some 1⟩
          else if extra = 1 then
            (Char.ofNat (a.toNat % 32 * 64 + low6 b) :: ·) <$> decodeFrom (pos + 2) rest
          else
            match rest with
            | [] => .error ⟨pos, none⟩
            | c :: rest =>
              if !isContinuation c then .error ⟨pos, some 2⟩
              else if extra = 2 then
                (Char.ofNat ((a.toNat % 16 * 64 + low6 b) * 64 + low6 c) :: ·) <$>
                  decodeFrom (pos + 3) rest
              else
                match rest with
                | [] => .error ⟨pos, none⟩
                | d :: rest =>
                  if !isContinuation d then .error ⟨pos, some 3⟩
                  else
                    (Char.ofNat (((a.toNat % 8 * 64 + low6 b) * 64 + low6 c) * 64 + low6 d) :: ·)
                      <$> decodeFrom (pos + 4) rest

/-- The text of the bytes, or the first fault. -/
def decode (bytes : List UInt8) : Except Utf8Fault String :=
  String.ofList <$> decodeFrom 0 bytes

end Utf8

/-- The UTF-8 bytes of a text. -/
def utf8Bytes (text : String) : List UInt8 := text.toUTF8.toList

end WatchRelay
