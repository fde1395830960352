import WatchRelay.Text.Utf8

/-! Texts as UTF-8: what is written is read back, and the order of texts is that of their bytes. -/

namespace WatchRelay

namespace Utf8

/-! ### Bytes -/

/-- The bytes of an array from a position on, read one after the other. -/
theorem toList_loop (bytes : ByteArray) (position : Nat) (read : List UInt8) :
    ByteArray.toList.loop bytes position read =
      read.reverse ++ bytes.data.toList.drop position := by
  -- The loop gathers the bytes backwards, from the position on.
  fun_induction ByteArray.toList.loop bytes position read with
  | case1 position read inside ih =>
    have among : position < bytes.data.toList.length := inside
    have next : bytes.get! position = bytes.data.toList[position] :=
      getElem!_pos bytes.data position inside
    rw [ih, List.drop_eq_getElem_cons among, next]
    simp
  | case2 position read outside =>
    have beyond : bytes.data.toList.length ≤ position := Nat.le_of_not_lt outside
    simp [List.drop_eq_nil_of_le beyond]

/-- The bytes of a text are those of its characters. -/
theorem utf8Bytes_eq (text : String) :
    utf8Bytes text = text.toList.flatMap String.utf8EncodeChar := by
  -- The bytes of a text are those of its characters, one after the other.
  have bytes : text.toByteArray = (text.toList.flatMap String.utf8EncodeChar).toByteArray := by
    rw [← List.utf8Encode, ← String.toByteArray_ofList, String.ofList_toList]
  rw [utf8Bytes, String.toUTF8, bytes, ByteArray.toList, toList_loop, List.toList_data_toByteArray]
  rfl

/-- A byte is the number it is made of. -/
theorem toNat_byte {n : Nat} (small : n < 256) : (UInt8.ofNat n).toNat = n := by
  rw [UInt8.toNat_ofNat', Nat.mod_eq_of_lt small]

/-- Bytes are in the order of the numbers they are made of. -/
theorem byte_lt {m n : Nat} (less : m < n) (small : n < 256) : UInt8.ofNat m < UInt8.ofNat n := by
  rw [UInt8.lt_iff_toNat_lt, toNat_byte small, toNat_byte (by omega)]
  exact less

/-- The bytes of the characters with one, two, three and four of them. -/
inductive Encodes : Nat → List UInt8 → Prop where
  | one {v : Nat} (most : v < 0x80) : Encodes v [UInt8.ofNat v]
  | two {v : Nat} (least : 0x80 ≤ v) (most : v < 0x800) :
      Encodes v [UInt8.ofNat (v / 64 + 192), UInt8.ofNat (v % 64 + 128)]
  | three {v : Nat} (least : 0x800 ≤ v) (most : v < 0x10000) (scalar : v < 0xD800 ∨
      0xDFFF < v) :
      Encodes v [UInt8.ofNat (v / 4096 + 224), UInt8.ofNat (v / 64 % 64 + 128),
        UInt8.ofNat (v % 64 + 128)]
  | four {v : Nat} (least : 0x10000 ≤ v) (most : v < 0x110000) :
      Encodes v [UInt8.ofNat (v / 262144 + 240), UInt8.ofNat (v / 4096 % 64 + 128),
        UInt8.ofNat (v / 64 % 64 + 128), UInt8.ofNat (v % 64 + 128)]

/-- Every character is written in one of these ways. -/
theorem encodes (c : Char) : Encodes c.toNat (String.utf8EncodeChar c) := by
  have scalar : c.val.toNat < 0xD800 ∨ 0xDFFF < c.val.toNat ∧ c.val.toNat < 0x110000 := c.valid
  unfold String.utf8EncodeChar Char.toNat
  generalize c.val.toNat = v at scalar
  dsimp only
  -- What is left of a number above its lowest digits is smaller than the mask over it.
  split
  · exact .one (by omega)
  · split
    · rw [Nat.mod_eq_of_lt (show v / 64 < 32 by omega)]
      exact .two (by omega) (by omega)
    · split
      · rw [Nat.mod_eq_of_lt (show v / 4096 < 16 by omega)]
        exact .three (by omega) (by omega) (by omega)
      · rw [Nat.mod_eq_of_lt (show v / 262144 < 8 by omega)]
        exact .four (by omega) (by omega)

/-! ### The order of texts -/

/-- Of two texts the one comes first whose first byte is lower, or that comes first behind it. -/
theorem cons_lt {m n : Nat} {as bs : List UInt8} (small : n < 256) (less : m < n ∨
    m = n ∧ as < bs) :
    UInt8.ofNat m :: as < UInt8.ofNat n :: bs := by
  -- The first bytes differ, or the rest decides.
  rcases less with less | ⟨rfl, less⟩
  · exact List.cons_lt_cons_iff.mpr (.inl (byte_lt less small))
  · exact List.cons_lt_cons_iff.mpr (.inr ⟨rfl, less⟩)

/-- Of two texts that begin with a byte each, where the lower byte goes with the lower number, and
the same byte with texts behind it in that order, that of the lower number comes first. -/
theorem cons_lt_of_le {m n : Nat} {as bs : List UInt8} (small : n < 256) (le : m ≤ n)
    (rest : m = n → as < bs) :
    UInt8.ofNat m :: as < UInt8.ofNat n :: bs := by
  -- The first bytes differ, or they are the same and the rest decides.
  refine cons_lt small ?_
  rcases Nat.lt_or_eq_of_le le with less | same
  · exact .inl less
  · exact .inr ⟨same, rest same⟩

/-- The bytes of a lower character come first, whatever follows them. -/
theorem Encodes.lt {m n : Nat} {first second : List UInt8} (encodes : Encodes m first)
    (encodes' : Encodes n second)
    (less : m < n) (as bs : List UInt8) : first ++ as < second ++ bs := by
  -- A character of more bytes begins with a higher one. Of two with as many bytes, those of the
  -- lower are its digits to
  -- the base 64, so up to the first that differs they are the same, and there its own is lower.
  cases encodes with
  | one most =>
    cases encodes' with
    | one most' => exact cons_lt (by omega) (.inl less)
    | two least' most' => exact cons_lt (by omega) (.inl (by omega))
    | three least' most' _ => exact cons_lt (by omega) (.inl (by omega))
    | four least' most' => exact cons_lt (by omega) (.inl (by omega))
  | two least most =>
    cases encodes' with
    | one most' => omega
    | two least' most' =>
      refine cons_lt_of_le (by omega) (by omega) fun _ => ?_
      exact cons_lt (by omega) (.inl (by omega))
    | three least' most' _ => exact cons_lt (by omega) (.inl (by omega))
    | four least' most' => exact cons_lt (by omega) (.inl (by omega))
  | three least most _ =>
    cases encodes' with
    | one most' => omega
    | two least' most' => omega
    | three least' most' _ =>
      refine cons_lt_of_le (by omega) (by omega) fun _ => ?_
      refine cons_lt_of_le (by omega) (by omega) fun _ => ?_
      exact cons_lt (by omega) (.inl (by omega))
    | four least' most' => exact cons_lt (by omega) (.inl (by omega))
  | four least most =>
    cases encodes' with
    | one most' => omega
    | two least' most' => omega
    | three least' most' _ => omega
    | four least' most' =>
      refine cons_lt_of_le (by omega) (by omega) fun _ => ?_
      refine cons_lt_of_le (by omega) (by omega) fun _ => ?_
      refine cons_lt_of_le (by omega) (by omega) fun _ => ?_
      exact cons_lt (by omega) (.inl (by omega))

/-- The order of texts is that of their bytes. -/
theorem utf8Bytes_lt {a b : String} (less : a < b) : utf8Bytes a < utf8Bytes b := by
  rw [utf8Bytes_eq, utf8Bytes_eq]
  replace less : a.toList < b.toList := less
  generalize a.toList = as at less
  generalize b.toList = bs at less
  -- Characters that are the same have the same bytes, and the first that differs decides.
  induction as generalizing bs with
  | nil =>
    -- Nothing comes before anything else.
    cases bs with
    | nil => cases less
    | cons d bs =>
      have begun : String.utf8EncodeChar d ≠ [] := String.utf8EncodeChar_ne_nil
      cases bytes : String.utf8EncodeChar d with
      | nil => exact absurd bytes begun
      | cons first rest =>
        rw [List.flatMap_cons, bytes]
        exact List.nil_lt_cons ..
  | cons c as ih =>
    cases bs with
    | nil => cases less
    | cons d bs =>
      rw [List.flatMap_cons, List.flatMap_cons]
      rcases List.cons_lt_cons_iff.mp less with lower | ⟨rfl, behind⟩
      · exact (encodes c).lt (encodes d) lower _ _
      · exact List.append_left_lt (ih bs behind)

/-! ### Reading what is written -/

/-- The bytes that may follow the first of a character with two bytes. -/
theorem follow_two {n : Nat} (least : 0xC2 ≤ n) (most : n ≤ 0xDF) :
    follow (UInt8.ofNat n) = some (UInt8.ofNat 0x80, UInt8.ofNat 0xBF, 1) := by
  -- There are thirty such bytes, so each of them can be looked at.
  have all : ∀ k < 30, follow (UInt8.ofNat (0xC2 + k)) = some (0x80, 0xBF, 1) := by decide
  obtain ⟨k, rfl⟩ := Nat.exists_eq_add_of_le least
  exact all k (by omega)

/-- The bytes that may follow the first of a character with three bytes: none is shorter than it
could be, and none is a surrogate. -/
theorem follow_three {n : Nat} (least : 0xE0 ≤ n) (most : n ≤ 0xEF) :
    follow (UInt8.ofNat n) =
      some (UInt8.ofNat (if n = 0xE0 then 0xA0 else 0x80),
        UInt8.ofNat (if n = 0xED then 0x9F else 0xBF), 2) := by
  -- There are sixteen such bytes, and two of them have bounds of their own.
  have all : ∀ k < 16, follow (UInt8.ofNat (0xE0 + k)) =
      some (UInt8.ofNat (if 0xE0 + k = 0xE0 then 0xA0 else 0x80),
        UInt8.ofNat (if 0xE0 + k = 0xED then 0x9F else 0xBF), 2) := by
    decide
  obtain ⟨k, rfl⟩ := Nat.exists_eq_add_of_le least
  exact all k (by omega)

/-- The bytes that may follow the first of a character with four bytes: none is shorter than it
could be, and none is beyond the last character. -/
theorem follow_four {n : Nat} (least : 0xF0 ≤ n) (most : n ≤ 0xF4) :
    follow (UInt8.ofNat n) =
      some (UInt8.ofNat (if n = 0xF0 then 0x90 else 0x80),
        UInt8.ofNat (if n = 0xF4 then 0x8F else 0xBF), 3) := by
  -- There are five such bytes, and the first and the last have bounds of their own.
  have all : ∀ k < 5, follow (UInt8.ofNat (0xF0 + k)) =
      some (UInt8.ofNat (if 0xF0 + k = 0xF0 then 0x90 else 0x80),
        UInt8.ofNat (if 0xF0 + k = 0xF4 then 0x8F else 0xBF), 3) := by
    decide
  obtain ⟨k, rfl⟩ := Nat.exists_eq_add_of_le least
  exact all k (by omega)

/-- A number of six bits is read from the byte that holds it. -/
theorem low6_byte (v : Nat) : low6 (UInt8.ofNat (v % 64 + 128)) = v % 64 := by
  rw [low6, toNat_byte (by omega)]
  omega

/-- A byte that holds six bits continues a character. -/
theorem isContinuation_byte (v : Nat) : isContinuation (UInt8.ofNat (v % 64 + 128)) = true := by
  -- Six bits are put behind the mark, so the byte lies in the range of continuations.
  have bounds : (0x80 : UInt8).toNat ≤ v % 64 + 128 ∧
      v % 64 + 128 ≤ (0xBF : UInt8).toNat := by
    constructor
    · exact Nat.le_add_left _ _
    · change v % 64 + 128 ≤ 191
      omega
  simp only [isContinuation, UInt8.le_iff_toNat_le, toNat_byte (show v % 64 + 128 < 256 by omega),
    bounds, decide_true, Bool.and_self]

/-- A byte is within bounds if the number it is made of is. -/
theorem within {n low high : Nat} (least : low ≤ n) (most : n ≤ high) (small : high < 256) :
    (UInt8.ofNat n < UInt8.ofNat low || UInt8.ofNat high < UInt8.ofNat n) = false := by
  -- Bytes are compared by their numbers.
  simp only [UInt8.lt_iff_toNat_lt, toNat_byte small, toNat_byte (show n < 256 by omega),
    toNat_byte (show low < 256 by omega), Bool.or_eq_false_iff, decide_eq_false_iff_not, Nat.not_lt]
  exact ⟨least, most⟩

/-- A byte above the first half is not a character of its own. -/
theorem not_single {n : Nat} (least : 0x80 ≤ n) (small : n < 256) : ¬UInt8.ofNat n < 0x80 := by
  rw [UInt8.lt_iff_toNat_lt, toNat_byte small]
  exact Nat.not_lt.mpr least

/-- A character is read from its bytes. -/
theorem Encodes.decodes {v : Nat} {bytes : List UInt8} (encodes : Encodes v bytes) (pos : Nat)
    (rest : List UInt8) :
    ∃ pos', decodeFrom pos (bytes ++ rest) = (Char.ofNat v :: ·) <$> decodeFrom pos' rest := by
  -- The first byte tells how many follow it and what the second may be; the others hold six bits
  -- each.
  cases encodes with
  | one most =>
    have single : UInt8.ofNat v < 0x80 := by
      rw [UInt8.lt_iff_toNat_lt, toNat_byte (by omega)]
      exact most
    refine ⟨pos + 1, ?_⟩
    rw [List.singleton_append, decodeFrom, if_pos single, toNat_byte (by omega)]
  | two least most =>
    refine ⟨pos + 2, ?_⟩
    rw [List.cons_append, List.singleton_append, decodeFrom,
      if_neg (not_single (by omega) (by omega)), follow_two (by omega) (by omega)]
    -- The two bytes hold the value between them.
    have value :
        (UInt8.ofNat (v / 64 + 192)).toNat % 32 * 64 + low6 (UInt8.ofNat (v % 64 + 128)) = v := by
      rw [low6_byte, toNat_byte (by omega)]
      omega
    simp only [within (show 0x80 ≤ v % 64 + 128 by omega) (show v % 64 + 128 ≤ 0xBF by omega)
      (by decide), value, Bool.false_eq_true, if_false, if_true]
  | three least most scalar =>
    refine ⟨pos + 3, ?_⟩
    rw [List.cons_append, List.cons_append, List.singleton_append, decodeFrom,
      if_neg (not_single (by omega) (by omega)), follow_three (by omega) (by omega)]
    have value : ((UInt8.ofNat (v / 4096 + 224)).toNat % 16 * 64 + low6
      (UInt8.ofNat (v / 64 % 64 + 128))) * 64 +
        low6 (UInt8.ofNat (v % 64 + 128)) = v := by
      rw [low6_byte, low6_byte, toNat_byte (by omega)]
      omega
    -- The second byte is above the values of two bytes and below the surrogates.
    have low : (if v / 4096 + 224 = 0xE0 then 0xA0 else 0x80) ≤ v / 64 % 64 + 128 := by
      split <;> omega
    have high : v / 64 % 64 + 128 ≤ if v / 4096 + 224 = 0xED then 0x9F else 0xBF := by
      split <;> omega
    simp only [within low high (by split <;> decide), isContinuation_byte, value,
      Bool.false_eq_true, if_false, Bool.not_true, if_true, show ¬2 = 1 by decide]
  | four least most =>
    refine ⟨pos + 4, ?_⟩
    rw [List.cons_append, List.cons_append, List.cons_append, List.singleton_append, decodeFrom,
      if_neg (not_single (by omega) (by omega)), follow_four (by omega) (by omega)]
    have value :
      (((UInt8.ofNat (v / 262144 + 240)).toNat % 8 * 64 + low6
      (UInt8.ofNat (v / 4096 % 64 + 128))) * 64 +
        low6 (UInt8.ofNat (v / 64 % 64 + 128))) * 64 + low6 (UInt8.ofNat (v % 64 + 128)) = v := by
      rw [low6_byte, low6_byte, low6_byte, toNat_byte (by omega)]
      omega
    -- The second byte is above the values of three bytes and below the end of the letters.
    have low : (if v / 262144 + 240 = 0xF0 then 0x90 else 0x80) ≤ v / 4096 % 64 + 128 := by
      split <;> omega
    have high : v / 4096 % 64 + 128 ≤ if v / 262144 + 240 = 0xF4 then 0x8F else 0xBF := by
      split <;> omega
    simp only [within low high (by split <;> decide), isContinuation_byte, value,
      Bool.false_eq_true, if_false, Bool.not_true, show ¬3 = 1 by decide, show ¬3 = 2 by decide]

/-- What is written is read back. -/
theorem decode_utf8Bytes (text : String) : decode (utf8Bytes text) = .ok text := by
  -- The position only matters for where a fault is, and so it is left open.
  have reads : ∀ cs : List Char, ∀ pos, decodeFrom pos (cs.flatMap String.utf8EncodeChar) =
      .ok cs := by
    intro cs
    induction cs with
    | nil => exact fun pos => rfl
    | cons c cs ih =>
      intro pos
      obtain ⟨pos', read⟩ := (encodes c).decodes pos (cs.flatMap String.utf8EncodeChar)
      rw [List.flatMap_cons, read, ih, Char.ofNat_toNat]
      rfl
  rw [decode, utf8Bytes_eq, reads]
  exact congrArg Except.ok String.ofList_toList

/-- Only of no bytes at all is nothing read. -/
theorem eq_nil_of_decodeFrom {pos : Nat} {bytes : List UInt8}
    (read : decodeFrom pos bytes = .ok []) : bytes = [] := by
  -- What is read begins with a character, or there is a fault.
  have begun (c : Char) (x : Except Utf8Fault (List Char)) : (c :: ·) <$> x ≠ .ok [] := by
    cases x <;> exact fun same => by cases same
  unfold decodeFrom at read
  split at read
  · rfl
  · repeat' split at read
    all_goals first | exact absurd read (begun _ _) | cases read

end Utf8

end WatchRelay
