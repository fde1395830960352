import WatchRelay.Json.Printer
import WatchRelay.Proofs.Json.Grammar

/-! The tree of a printed value: its text is written for that tree, and so it is read as it. -/

namespace WatchRelay

/-- The piece that a character of a printed string stands as. -/
def Piece.of (c : Char) : Piece :=
  match c with
  | '"' | '\\' | '\x08' | '\x0c' | '\n' | '\r' | '\t' => .short c
  | c => if c.toNat < 0x20 then .unit c.toNat else .plain c

/-- The spelling of a printed string. -/
def Spelling.of (text : String) : Spelling := ⟨text.toList.map .of, .closed⟩

/-- The numeral of a printed double. -/
def Double.numeral (d : Double) : Numeral :=
  if d.isZero then ⟨d.negative, ['0'], some ['0'], none⟩
  else
    let s := d.shortest
    let ds := decimalChars s.digits
    let top : Int := ds.length - 1 + s.exponent
    if -5 ≤ top ∧ top ≤ 15 then
      if 0 ≤ s.exponent then ⟨d.negative, ds ++ List.replicate s.exponent.toNat '0',
        some ['0'], none⟩
      else if 0 ≤ top then
        ⟨d.negative, ds.take (top + 1).toNat, some (ds.drop (top + 1).toNat), none⟩
      else ⟨d.negative, ['0'], some (List.replicate (-top - 1).toNat '0' ++ ds), none⟩
    else
      ⟨d.negative, ds.take 1, if ds.length ≤ 1 then none else some (ds.drop 1),
        some (top < 0, decimalChars top.natAbs)⟩

/-- The numeral of a printed number. -/
def Number.numeral : Number → Numeral
  | .integer n => ⟨n < 0, decimalChars n.natAbs, none, none⟩
  | .double d => d.numeral

namespace Json

mutual

/-- The tree of a printed value. -/
def tree : Json → Tree
  | .null => .null
  | .bool value => .bool value
  | .number n => .numeral n.numeral
  | .string text => .string (.of text)
  | .array items => .array (itemTrees items) .closed
  | .object members => .object (memberTrees members) .closed

/-- The trees of printed items. -/
def itemTrees : List Json → List Tree
  | [] => []
  | item :: rest => item.tree :: itemTrees rest

/-- The keys and trees of printed members. -/
def memberTrees : List (String × Json) → List (Spelling × Tree)
  | [] => []
  | (key, value) :: rest => (.of key, value.tree) :: memberTrees rest

end

/-- A value in which all numbers have a property. -/
inductive Every (p : Number → Prop) : Json → Prop where
  | null : Every p .null
  | bool (value : Bool) : Every p (.bool value)
  | number {n : Number} (holds : p n) : Every p (.number n)
  | string (text : String) : Every p (.string text)
  | array {items : List Json} (all : ∀ v ∈ items, Every p v) : Every p (.array items)
  | object {members : List (String × Json)} (all : ∀ m ∈ members, Every p m.2) :
      Every p (.object members)

end Json

/-- The text of a number has the parts of its numeral. -/
theorem Number.chars_parts (n : Number) : ∃ power, Numeral.PowerText n.numeral.power power ∧
    n.chars = (if n.numeral.negative then ['-'] else []) ++
      (n.numeral.whole ++ (Numeral.fractionChars n.numeral.fraction ++ power)) := by
  cases n with
  | integer n =>
    refine ⟨[], .absent, ?_⟩
    by_cases negative : n < 0 <;>
      simp [Number.numeral, Numeral.fractionChars, Number.chars, integerChars, negative]
  | double d =>
    simp only [Number.numeral, Double.numeral, Number.chars, Double.chars]
    cases d.isZero with
    | true => exact ⟨[], .absent, by simp [Numeral.fractionChars]⟩
    | false =>
      simp only [Bool.false_eq_true, if_false]
      split
      -- Without an exponent the digits stand around the point.
      · split
        · exact ⟨[], .absent, by simp [Numeral.fractionChars]⟩
        · split <;> exact ⟨[], .absent, by simp [Numeral.fractionChars]⟩
      -- With one, the point stands behind the first of them, if there are more.
      · have power (below : Bool) (ds : List Char) :
            Numeral.PowerText (some (below, ds)) ('e' :: (if below then '-' else '+') :: ds) := by
          cases below with
          | true => exact .minus (.inl rfl)
          | false => exact .plus (.inl rfl)
        refine ⟨_, power _ _, ?_⟩
        by_cases single : (decimalChars d.shortest.digits).length ≤ 1 <;>
          simp [Numeral.fractionChars, single]

/-- A number is printed as its numeral is written, if that is proper. -/
theorem Number.isWritten {n : Number} (proper : n.numeral.IsProper) :
    n.numeral.IsWritten n.chars := by
  -- The parts of a number are written one after the other.
  obtain ⟨power, powered, parts⟩ := n.chars_parts
  rw [parts]
  exact .parts proper powered

/-- Decimal digits start with a zero only if they are one. -/
theorem decimalChars_lead (n : Nat) (zero : (decimalChars n).head? = some '0') :
    decimalChars n = ['0'] := by
  induction n using Nat.strong_induction_on with
  | _ n ih =>
    unfold decimalChars at zero ih ⊢
    by_cases single : n < 10
    · rw [Nat.toDigits_of_lt_base single] at zero ⊢
      simpa using zero
    · -- The first digit is that of a tenth, which is not zero.
      rw [Nat.toDigits_of_base_le (by decide) (Nat.le_of_not_lt single), List.head?_append] at zero
      obtain ⟨d, ds, tenth⟩ :=
        List.exists_cons_of_ne_nil (Nat.toDigits_ne_nil (b := 10) (n := n / 10))
      have less := ih (n / 10) (by omega) (by simpa [tenth] using zero)
      have value := Nat.ofDigitChars_ten_toDigits (n := n / 10)
      rw [less] at value
      change 0 = n / 10 at value
      omega

/-- Decimal digits are digits. -/
theorem isDigits_decimalChars (n : Nat) : IsDigits (decimalChars n) :=
  ⟨Nat.toDigits_ne_nil, fun _ member =>
    Nat.isDigit_of_mem_toDigits (by decide) (by decide) member⟩

/-- The numeral of an integer is proper. -/
theorem Number.isProper_integer (n : Int) : (Number.integer n).numeral.IsProper :=
  ⟨isDigits_decimalChars _,
    decimalChars_lead _, by simp [Number.numeral], by simp [Number.numeral]⟩

/-- A character is printed as a short escape, as a UTF-16 unit below the blank, or as itself. -/
theorem jsonChar_cases (c : Char) :
    (∃ letter, (letter, c) ∈ shortEscapes ∧ jsonChar c = ['\\', letter] ∧
      Piece.of c = .short c) ∨
    (c.toNat < 0x20 ∧ Piece.of c = .unit c.toNat ∧
      jsonChar c = ['\\', 'u', '0', '0', hexDigit (c.toNat / 16), hexDigit (c.toNat % 16)]) ∨
    (c ≠ '"' ∧ c ≠ '\\' ∧ ¬ c.toNat < 0x20 ∧ jsonChar c = [c] ∧
      Piece.of c = .plain c) := by
  unfold jsonChar
  split
  -- All but the last case are characters with a short escape.
  case h_8 quote backslash _ _ _ _ _ =>
    split
    · next control => exact .inr (.inl ⟨control, by simp [Piece.of, *], rfl⟩)
    · next plain => exact .inr (.inr ⟨quote, backslash, plain, rfl, by simp [Piece.of, *]⟩)
  all_goals exact .inl ⟨_, by decide, rfl, rfl⟩

/-- Sixteen numbers have a hexadecimal digit. -/
theorem isHexDigit_hexDigit {n : Nat} (small : n < 16) : IsHexDigit (hexDigit n) n := by
  -- A digit is a numeral up to nine, and a small letter from ten on.
  by_cases decimal : n < 10
  · rw [hexDigit, if_pos decimal]
    exact .decimal decimal
  · obtain ⟨k, rfl⟩ : ∃ k, n = 10 + k := ⟨n - 10, by omega⟩
    have letter : hexDigit (10 + k) = Char.ofNat (97 + k) := by
      rw [hexDigit, if_neg decimal]
      congr 1
      omega
    rw [letter]
    exact .lower (by omega)

/-- A character is printed as its piece is written. -/
theorem Piece.isWritten_of (c : Char) : (Piece.of c).IsWritten (jsonChar c) := by
  rcases jsonChar_cases c with ⟨letter, escape, printed, piece⟩ |
    ⟨control, piece, printed⟩ |
    ⟨quote, backslash, plain, printed, piece⟩
  · rw [printed, piece]
    exact .short escape
  · -- The last two of the four digits are those of the character.
    have zero : IsHexDigit '0' 0 := .decimal (n := 0) (by decide)
    have written := IsWritten.unit zero zero (isHexDigit_hexDigit (n := c.toNat / 16) (by omega))
      (isHexDigit_hexDigit (n := c.toNat % 16) (by omega))
    have value : ((0 * 16 + 0) * 16 + c.toNat / 16) * 16 + c.toNat % 16 = c.toNat := by omega
    rw [value] at written
    rw [printed, piece]
    exact written
  · rw [printed, piece]
    exact .plain quote backslash (Nat.le_of_not_lt plain)

/-- A text is printed as its pieces are written. -/
theorem Spelling.isWritten_map (cs : List Char) : IsWritten (cs.map .of) (cs.flatMap jsonChar) := by
  -- Each character is written by its own piece.
  induction cs with
  | nil => exact .nil
  | cons c cs ih => exact .cons (Piece.isWritten_of c) ih

/-- The pieces of a printed string stand for its characters. -/
theorem Spelling.decode_map (cs : List Char) : decode .closed (cs.map .of) = .ok cs := by
  -- Each piece stands for its own character.
  induction cs with
  | nil => rfl
  | cons c cs ih =>
    rw [List.map_cons]
    rcases jsonChar_cases c with ⟨_, _, _, piece⟩ | ⟨control, piece, _⟩ |
      ⟨_, _, _, _, piece⟩
    · simp [piece, decode, ih, Functor.map, Except.map]
    · -- A control character is far below the surrogates.
      have leading : isLeading c.toNat = false := by simp [isLeading]; omega
      have trailing : isTrailing c.toNat = false := by simp [isTrailing]; omega
      rw [piece, decode.eq_def]
      simp [leading, trailing, ih, Functor.map, Except.map]
    · simp [piece, decode, ih, Functor.map, Except.map]

/-- The spelling of a printed string stands for the string. -/
@[simp] theorem Spelling.read_of (text : String) : (Spelling.of text).read = .ok text := by
  simp [read, of, decode_map, Functor.map, Except.map]

namespace Json

/-- The trees of items, one by one. -/
theorem itemTrees_eq_map (items : List Json) : itemTrees items = items.map tree := by
  -- The trees are made one by one.
  induction items with
  | nil => rfl
  | cons item rest ih => rw [itemTrees, ih, List.map_cons]

/-- The keys and trees of members, one by one. -/
theorem memberTrees_eq_map (members : List (String × Json)) :
    memberTrees members = members.map fun m => (.of m.1, m.2.tree) := by
  -- The trees are made one by one.
  induction members with
  | nil => rfl
  | cons member rest ih => rw [memberTrees, ih, List.map_cons]

/-- The items of an array are printed with commas between them. -/
theorem itemChars_eq_intercalate (items : List Json) :
    itemChars items = List.intercalate [','] (items.map chars) := by
  -- Only the items behind the first have a comma before them.
  induction items with
  | nil => rfl
  | cons item rest ih =>
    cases rest with
    | nil => simp [itemChars]
    | cons next later => simp [itemChars, ih]

/-- The members of an object are printed with commas between them. -/
theorem memberChars_eq_intercalate (members : List (String × Json)) :
    memberChars members =
      List.intercalate [','] (members.map fun m => jsonString m.1 ++ ':' :: m.2.chars) := by
  -- Only the members behind the first have a comma before them.
  induction members with
  | nil => rfl
  | cons member rest ih =>
    cases rest with
    | nil => simp [memberChars]
    | cons next later => simp [memberChars, ih]

/-- The members of an object are printed as the fields of a record are. -/
theorem memberChars_eq_fieldChars (members : List (String × Json)) :
    memberChars members = fieldChars (members.map fun m => (m.1, m.2.chars)) := by
  -- Fields are printed as members are.
  induction members with
  | nil => rfl
  | cons member rest ih =>
    cases rest with
    | nil => rfl
    | cons next later => simp only [memberChars, fieldChars, List.map_cons] at ih ⊢; rw [ih]

/-- What follows from a property of all numbers of a value is one as well. -/
theorem Every.imp {p q : Number → Prop} {v : Json} (follows : ∀ n, p n → q n)
    (every : v.Every p) : v.Every q := by
  -- Only the numbers are looked at.
  induction every with
  | null => exact .null
  | bool value => exact .bool value
  | number holds => exact .number (follows _ holds)
  | string text => exact .string text
  | array _ ih => exact .array ih
  | object _ ih => exact .object ih

/-- The text of a value whose numbers are proper numerals is written for its tree. -/
theorem Every.isWritten {v : Json} (proper : v.Every (·.numeral.IsProper)) :
    v.tree.IsWritten v.chars := by
  -- A printed text has no blanks, so every gap in it is empty.
  have empty : ∀ c ∈ ([] : List Char), Lexeme.isGap c = true := by simp
  induction proper with
  | null => exact .null
  | bool value =>
    have written := Tree.IsWritten.bool value
    cases value <;> exact written
  | number proper => exact .numeral (Number.isWritten proper)
  | string text => exact .string (Spelling.isWritten_map text.toList)
  | @array items _ ih =>
    have written := Tree.IsWritten.array (items.map fun v => (v.tree, v.chars)) [] empty
      (List.forall_mem_map.mpr ih)
    simpa [chars, tree, itemTrees_eq_map, itemChars_eq_intercalate, Function.comp_def] using written
  | @object members _ ih =>
    have keys : ∀ m ∈ members, (Spelling.of m.1).IsKey (jsonString m.1) := by
      intro m _
      simpa [jsonString, Spelling.of] using Spelling.IsKey.mk [] []
        (Spelling.isWritten_map m.1.toList) empty empty
    have written := Tree.IsWritten.object
      (members.map fun m => ((.of m.1, m.2.tree), jsonString m.1, m.2.chars)) [] empty
      (List.forall_mem_map.mpr keys) (List.forall_mem_map.mpr ih)
    simpa [chars, tree, memberTrees_eq_map, memberChars_eq_intercalate,
      Function.comp_def] using written

/-- A value is printed as the text that its tree is written with. -/
theorem Every.isWritten_print {v : Json} (proper : v.Every (·.numeral.IsProper)) :
    v.tree.IsWritten v.print.toList := by
  rw [print, String.toList_ofList]
  exact proper.isWritten

/-- A printed value is read as its tree, and nothing follows it. -/
theorem Every.ofText_print {v : Json} (proper : v.Every (·.numeral.IsProper)) :
    Tree.ofText v.print = (v.tree, false) :=
  proper.isWritten_print.ofText

end Json

end WatchRelay
