import WatchRelay.Http.Percent
import WatchRelay.Json.Printer
import WatchRelay.Proofs.Json.Printing
import WatchRelay.Proofs.Outcome
import WatchRelay.Proofs.Text.Utf8

/-! Percent-encoding: every text can be written as a part of a path, and is read back from it. -/

namespace WatchRelay

/-- A byte as a percent sign and two hexadecimal digits. -/
def percentByte (b : UInt8) : List Char := ['%', hexDigit (b.toNat / 16), hexDigit (b.toNat % 16)]

/-- A text with every byte percent-encoded. -/
def percentEncode (text : String) : String := String.ofList ((utf8Bytes text).flatMap percentByte)

/-- What is percent-encoded stands for its bytes. -/
theorem percentBytes_percentByte (bytes : List UInt8) :
    percentBytes (bytes.flatMap percentByte) = bytes := by
  -- Each byte is written with its two digits, and these are read back.
  induction bytes with
  | nil => simp [percentBytes]
  | cons b rest ih =>
    have size : b.toNat < 256 := b.toNat_lt
    have high := (isHexDigit_hexDigit (n := b.toNat / 16) (by omega)).hexValue?
    have low := (isHexDigit_hexDigit (n := b.toNat % 16) (by omega)).hexValue?
    have value : b.toNat / 16 * 16 + b.toNat % 16 = b.toNat := by omega
    rw [List.flatMap_cons, percentByte, List.cons_append, List.cons_append, List.singleton_append,
      percentBytes]
    simp only [high, low, value, ih]
    rw [Nat.toUInt8_eq, UInt8.ofNat_toNat]

/-- Every text can be percent-encoded. -/
theorem percentDecode_percentEncode (text : String) :
    percentDecode (percentEncode text) = some text := by
  -- The bytes are read back, and they are those of the text.
  rw [percentDecode, percentEncode, String.toList_ofList, percentBytes_percentByte,
    Utf8.decode_utf8Bytes]
  rfl

/-- What is percent-encoded holds no slash. -/
theorem slash_not_mem_percentEncode (text : String) : '/' ∉ (percentEncode text).toList := by
  have digits : ∀ n < 16, hexDigit n ≠ '/' := by decide
  rw [percentEncode, String.toList_ofList, List.mem_flatMap]
  -- A byte is written as a percent sign and two digits, of which none is a slash.
  rintro ⟨b, -, among⟩
  have size : b.toNat < 256 := b.toNat_lt
  rcases List.mem_cons.mp among with sign | among
  · cases sign
  · rcases List.mem_cons.mp among with first | among
    · exact digits _ (by omega) first.symm
    · exact digits _ (by omega) (List.mem_singleton.mp among).symm

/-- A text without percent signs stands for itself. -/
theorem percentDecode_plain {text : String} (plain : '%' ∉ text.toList) :
    percentDecode text = some text := by
  -- Every character but the percent sign stands for its own bytes.
  have bytes : ∀ cs : List Char, '%' ∉ cs →
      percentBytes cs = cs.flatMap String.utf8EncodeChar := by
    intro cs
    induction cs with
    | nil => exact fun _ => by simp [percentBytes]
    | cons c rest ih =>
      intro absent
      obtain ⟨other, absent⟩ := List.ne_and_not_mem_of_not_mem_cons absent
      have own : utf8Bytes (String.singleton c) = String.utf8EncodeChar c := by
        simp [Utf8.utf8Bytes_eq]
      unfold percentBytes
      split
      · next empty => cases empty
      · next sign => exact absurd (List.cons.inj sign).1.symm other
      · next same =>
        obtain ⟨rfl, rfl⟩ := List.cons.inj same
        rw [ih absent, own, List.flatMap_cons]
  rw [percentDecode, bytes _ plain, ← Utf8.utf8Bytes_eq, Utf8.decode_utf8Bytes]
  rfl

/-- A text that is not empty is not percent-encoded as nothing. -/
theorem percentEncode_ne_empty {text : String} (filled : text ≠ "") :
    percentEncode text ≠ "" := by
  -- An empty text would be decoded to the text that was encoded.
  intro empty
  have decodes := percentDecode_percentEncode text
  rw [empty, percentDecode_plain (by decide)] at decodes
  exact filled (Option.some.inj decodes).symm

/-- A character has a byte at least. -/
theorem utf8Bytes_ne_nil {text : String} (filled : text ≠ "") : utf8Bytes text ≠ [] := by
  -- A character has a byte at least.
  obtain ⟨c, rest, same⟩ := List.exists_cons_of_ne_nil (mt String.toList_eq_nil_iff.mp filled)
  rw [Utf8.utf8Bytes_eq, same, List.flatMap_cons]
  exact List.append_ne_nil_of_left_ne_nil String.utf8EncodeChar_ne_nil _

/-- A text that is not empty stands for bytes. -/
theorem percentBytes_ne_nil {cs : List Char} (filled : cs ≠ []) : percentBytes cs ≠ [] := by
  unfold percentBytes
  split
  · exact absurd rfl filled
  · -- A percent sign stands for a byte, with digits or by itself.
    split
    · exact List.cons_ne_nil _ _
    · exact List.append_ne_nil_of_left_ne_nil (utf8Bytes_ne_nil (by decide)) _
  · next c rest _ =>
    have single : String.singleton c ≠ "" := String.singleton_ne_empty
    exact List.append_ne_nil_of_left_ne_nil (utf8Bytes_ne_nil single) _

/-- A text that is not empty stands for one that is not. -/
theorem ne_empty_of_percentDecode {raw text : String} (decodes : percentDecode raw = some text)
    (filled : raw ≠ "") :
    text ≠ "" := by
  rintro rfl
  -- What is decoded to nothing has no bytes, and so no characters.
  rw [percentDecode, Outcome.toOption_eq_some, Utf8.decode, Outcome.map_eq_ok] at decodes
  obtain ⟨cs, read, empty⟩ := decodes
  obtain rfl : cs = [] := by simpa using empty
  exact percentBytes_ne_nil (mt String.toList_eq_nil_iff.mp filled) (Utf8.eq_nil_of_decodeFrom read)

end WatchRelay
