import WatchRelay.Proofs.Json.Building
import WatchRelay.Proofs.Json.Lexing

/-! The grammar of JSON texts: every text that it allows is read as the tree it is written for. -/

namespace WatchRelay

/-- The hexadecimal digits and their values, letters in either case. -/
inductive IsHexDigit : Char → Nat → Prop where
  | decimal {n : Nat} (small : n < 10) : IsHexDigit (Char.ofNat (48 + n)) n
  | lower {n : Nat} (small : n < 6) : IsHexDigit (Char.ofNat (97 + n)) (10 + n)
  | upper {n : Nat} (small : n < 6) : IsHexDigit (Char.ofNat (65 + n)) (10 + n)

/-- The letters of short escapes and what they stand for. -/
def shortEscapes : List (Char × Char) :=
  [('"', '"'), ('\\', '\\'), ('/', '/'), ('b', '\x08'), ('f', '\x0c'), ('n', '\n'), ('r', '\r'),
    ('t', '\t')]

namespace Piece

/-- The characters a piece of a string may be written with. -/
inductive IsWritten : Piece → List Char → Prop where
  | plain {c : Char} (quote : c ≠ '"') (backslash : c ≠ '\\') (visible : 0x20 ≤ c.toNat) :
      IsWritten (.plain c) [c]
  | short {letter c : Char} (escape : (letter, c) ∈ shortEscapes) :
      IsWritten (.short c) ['\\', letter]
  | unit {a b c d : Char} {w x y z : Nat} (first : IsHexDigit a w) (second : IsHexDigit b x)
      (third : IsHexDigit c y) (fourth : IsHexDigit d z) :
      IsWritten (.unit (((w * 16 + x) * 16 + y) * 16 + z)) ['\\', 'u', a, b, c, d]

/-- The characters that pieces stand for: a unit that is no surrogate stands for its character, and
two surrogates stand for one character where the first of a pair is followed by the second of
one. -/
inductive StandFor : List Piece → List Char → Prop where
  | nil : StandFor [] []
  | plain {c : Char} {ps : List Piece} {cs : List Char} (rest : StandFor ps cs) :
      StandFor (.plain c :: ps) (c :: cs)
  | short {c : Char} {ps : List Piece} {cs : List Char} (rest : StandFor ps cs) :
      StandFor (.short c :: ps) (c :: cs)
  | unit {u : Nat} {ps : List Piece} {cs : List Char} (alone : u < 0xD800 ∨ 0xDFFF < u)
      (rest : StandFor ps cs) : StandFor (.unit u :: ps) (Char.ofNat u :: cs)
  | pair {u v : Nat} {ps : List Piece} {cs : List Char} (lead : 0xD800 ≤ u ∧ u ≤ 0xDBFF)
      (trail : 0xDC00 ≤ v ∧ v ≤ 0xDFFF) (rest : StandFor ps cs) :
      StandFor (.unit u :: .unit v :: ps)
        (Char.ofNat ((u - 0xD800) * 0x400 + (v - 0xDC00) + 0x10000) :: cs)

end Piece

namespace Spelling

/-- The characters a string may be written with between its quotation marks. -/
inductive IsWritten : List Piece → List Char → Prop where
  | nil : IsWritten [] []
  | cons {p : Piece} {ps : List Piece} {cs body : List Char} (piece : p.IsWritten cs)
      (rest : IsWritten ps body) : IsWritten (p :: ps) (cs ++ body)

/-- A closed string stands for a text if its pieces stand for the characters of the text. -/
def StandsFor (s : Spelling) (text : String) : Prop :=
  s.ending = .closed ∧ Piece.StandFor s.pieces text.toList

/-- A string with the blanks around it. -/
inductive IsKey : Spelling → List Char → Prop where
  | mk {ps : List Piece} {body : List Char} (before after : List Char) (written : IsWritten ps body)
      (blank : ∀ c ∈ before, Lexeme.isGap c = true)
      (blank' : ∀ c ∈ after, Lexeme.isGap c = true) :
      IsKey ⟨ps, .closed⟩ (before ++ ('"' :: body ++ '"' :: after))

end Spelling

/-- The characters a tree may be written with: its items or members with commas between them, and
blanks around every lexeme. -/
inductive Tree.IsWritten : Tree → List Char → Prop where
  | null : IsWritten .null ['n', 'u', 'l', 'l']
  | bool (value : Bool) :
      IsWritten (.bool value) (if value then ['t', 'r', 'u', 'e'] else ['f', 'a', 'l', 's', 'e'])
  | numeral {n : Numeral} {cs : List Char} (written : n.IsWritten cs) : IsWritten (.numeral n) cs
  | string {ps : List Piece} {body : List Char} (written : Spelling.IsWritten ps body) :
      IsWritten (.string ⟨ps, .closed⟩) ('"' :: body ++ ['"'])
  | array (items : List (Tree × List Char)) (gap : List Char)
      (blank : ∀ c ∈ gap, Lexeme.isGap c = true)
      (written : ∀ i ∈ items, IsWritten i.1 i.2) :
      IsWritten (.array (items.map (·.1)) .closed)
        ('[' :: (gap ++ (List.intercalate [','] (items.map (·.2)) ++ [']'])))
  | object (members : List ((Spelling × Tree) × List Char × List Char)) (gap : List Char)
      (blank : ∀ c ∈ gap, Lexeme.isGap c = true) (keys : ∀ m ∈ members, m.1.1.IsKey m.2.1)
      (written : ∀ m ∈ members, IsWritten m.1.2 m.2.2) :
      IsWritten (.object (members.map (·.1)) .closed)
        ('\x7b' ::
          (gap ++ (List.intercalate [','] (members.map fun m => m.2.1 ++ ':' :: m.2.2) ++
          ['\x7d'])))
  | padded {t : Tree} {cs : List Char} (before after : List Char) (written : IsWritten t cs)
      (blank : ∀ c ∈ before, Lexeme.isGap c = true)
      (blank' : ∀ c ∈ after, Lexeme.isGap c = true) :
      IsWritten t (before ++ (cs ++ after))

namespace Spelling

/-- A key is skipped. -/
theorem IsKey.skip {s : Spelling} {cs : List Char} (key : s.IsKey cs) : s.skip = .ok () := by
  cases key
  rfl

/-- Pieces of a closed string are decoded to the characters they stand for, and to no others. -/
theorem decode_eq_ok {ps : List Piece} {cs : List Char} :
    decode .closed ps = .ok cs ↔ Piece.StandFor ps cs := by
  constructor
  · -- The cases are those of the decoder, and most of them fail.
    intro reads
    fun_induction decode .closed ps generalizing cs with
    | case1 => cases reads; exact .nil
    | case2 f fault => cases fault
    | case3 c rest ih =>
      obtain ⟨cs, later, rfl⟩ := Outcome.map_eq_ok.mp reads
      exact .plain (ih later)
    | case4 c rest ih =>
      obtain ⟨cs, later, rfl⟩ := Outcome.map_eq_ok.mp reads
      exact .short (ih later)
    | case6 rest u trail lead ih =>
      -- A unit that is neither the first nor the second of a pair is no surrogate.
      obtain ⟨cs, later, rfl⟩ := Outcome.map_eq_ok.mp reads
      simp [isTrailing, isLeading] at trail lead
      exact .unit (by omega) (ih later)
    -- Two units of a pair stand for one letter.
    | case8 u trail lead v rest trail' ih =>
      obtain ⟨cs, later, rfl⟩ := Outcome.map_eq_ok.mp reads
      simp [isTrailing, isLeading] at lead trail'
      exact .pair lead trail' (ih later)
    | _ => cases reads
  -- In turn, each piece is decoded by its own case.
  · intro stand
    induction stand with
    | nil => rfl
    | plain _ ih | short _ ih => simp [decode, ih, Functor.map, Except.map]
    | @unit u ps cs alone _ ih =>
      have trail : isTrailing u = false := by simp [isTrailing]; omega
      have lead : isLeading u = false := by simp [isLeading]; omega
      rw [decode.eq_def]
      simp [trail, lead, ih, Functor.map, Except.map]
    | @pair u v ps cs lead trail _ ih =>
      have first : isLeading u = true := by simp [isLeading, lead]
      have other : isTrailing u = false := by simp [isTrailing]; omega
      have second : isTrailing v = true := by simp [isTrailing, trail]
      rw [decode.eq_def]
      simp [first, other, second, ih, paired, Functor.map, Except.map]

/-- Pieces are decoded only in front of a quotation mark. -/
theorem closed_of_decode {ending : StringEnd} {ps : List Piece} {cs : List Char}
    (reads : decode ending ps = .ok cs) : ending = .closed := by
  -- Only the end of the pieces looks at how the spelling ends.
  fun_induction decode ending ps generalizing cs with
  | case1 none' =>
    cases ending with
    | closed => rfl
    | _ => cases none'
  | case3 c rest ih | case4 c rest ih | case6 rest u trail lead ih
  | case8 u trail lead v rest trail' ih =>
    obtain ⟨cs, later, -⟩ := Outcome.map_eq_ok.mp reads
    exact ih later
  | _ => cases reads

/-- A string is read as the text it stands for, and as no other. -/
theorem read_eq_ok {s : Spelling} {text : String} : s.read = .ok text ↔ s.StandsFor text := by
  -- A spelling is read if it is closed and its pieces are decoded.
  rw [read, Outcome.map_eq_ok]
  constructor
  · rintro ⟨cs, reads, rfl⟩
    have closed := closed_of_decode reads
    rw [closed] at reads
    refine ⟨closed, ?_⟩
    rw [String.toList_ofList]
    exact decode_eq_ok.mp reads
  · rintro ⟨closed, stand⟩
    rw [closed]
    exact ⟨text.toList, decode_eq_ok.mpr stand, String.ofList_toList⟩

/-- A string stands for one text. -/
theorem StandsFor.unique {s : Spelling} {text text' : String} (stands : s.StandsFor text)
    (stands' : s.StandsFor text') : text = text' :=
  Except.ok.inj ((read_eq_ok.mpr stands).symm.trans (read_eq_ok.mpr stands'))

/-- Characters that need no escape are written as they are. -/
theorem isWritten_plain {cs : List Char} (plain : ∀ c ∈ cs, c ≠ '"' ∧ c ≠ '\\' ∧
    0x20 ≤ c.toNat) :
    IsWritten (cs.map .plain) cs := by
  -- Each character is a piece of its own.
  induction cs with
  | nil => exact .nil
  | cons c cs ih =>
    obtain ⟨⟨quote, backslash, visible⟩, later⟩ := List.forall_mem_cons.mp plain
    exact .cons (.plain quote backslash visible) (ih later)

end Spelling

/-- A hexadecimal digit is read as its value. -/
theorem IsHexDigit.hexValue? {c : Char} {n : Nat} (digit : IsHexDigit c n) :
    Lexeme.hexValue? c = some n := by
  -- Twenty-two digits, each looked up in its own row.
  have decimals : ∀ n < 10, Lexeme.hexValue? (Char.ofNat (48 + n)) = some n := by decide
  have lowers : ∀ n < 6, Lexeme.hexValue? (Char.ofNat (97 + n)) = some (10 + n) := by decide
  have uppers : ∀ n < 6, Lexeme.hexValue? (Char.ofNat (65 + n)) = some (10 + n) := by decide
  cases digit with
  | decimal small => exact decimals _ small
  | lower small => exact lowers _ small
  | upper small => exact uppers _ small

/-- The letter of a short escape is read as what it stands for, and it is not the letter of a long
one. -/
theorem escaped_of_mem {letter c : Char} (escape : (letter, c) ∈ shortEscapes) :
    Lexeme.escaped? letter = some c ∧ letter ≠ 'u' := by
  have all : ∀ p ∈ shortEscapes, Lexeme.escaped? p.1 = some p.2 ∧ p.1 ≠ 'u' := by decide
  exact all _ escape

namespace Lexeme

/-- A piece is read in front of whatever the string goes on with. -/
theorem stringBody_piece {p : Piece} {cs : List Char} (written : p.IsWritten cs)
    (rest : List Char) :
    stringBody (cs ++ rest) = put p (stringBody rest) := by
  -- A piece is read as a plain character, a short escape or a unit of four digits.
  cases written with
  | plain quote backslash visible =>
    simp [stringBody, backslash, Nat.not_lt.mpr visible]
  | short escape =>
    obtain ⟨escaped, long⟩ := escaped_of_mem escape
    simp [stringBody, long, escaped]
  | unit first second third fourth =>
    simp [stringBody, unit?, first.hexValue?, second.hexValue?, third.hexValue?, fourth.hexValue?]

/-- The pieces of a string are read up to its quotation mark. -/
theorem stringBody_written {ps : List Piece} {body : List Char}
    (written : Spelling.IsWritten ps body)
    (rest : List Char) : stringBody (body ++ '"' :: rest) = (ps, .closed, rest) := by
  -- The pieces are read one by one up to the quote.
  induction written with
  | nil => rfl
  | cons piece _ ih =>
    rw [List.append_assoc, stringBody_piece piece, ih]
    rfl

/-- A string is the first lexeme of a text. -/
theorem ofText_string {ps : List Piece} {body : List Char} (written : Spelling.IsWritten ps body)
    (rest : List Char) :
    ofText ('"' :: (body ++ '"' :: rest)) = .string ⟨ps, .closed⟩ :: ofText rest :=
  ofText_cons rfl (by simp [startingWith, stringBody_written written])

/-- A key is the first lexeme of a text, whatever blanks stand around it. -/
theorem ofText_key {s : Spelling} {cs : List Char} (key : s.IsKey cs) (rest : List Char) :
    ofText (cs ++ rest) = .string s :: ofText rest := by
  -- A key is a text with gaps before and behind it.
  obtain ⟨_, _, written, blank, blank'⟩ := key
  simp only [List.append_assoc, List.cons_append]
  rw [ofText_gaps blank, ofText_string written, ofText_gaps blank']

/-- What a numeral must not be followed by does not follow one in front of a mark. -/
theorem endsNumeral_mark {c : Char} (mark : c = ',' ∨ c = ']' ∨ c = '\x7d') (rest : List Char) :
    EndsNumeral (c :: rest) := by
  -- None of the marks goes on with a number.
  intro d first
  obtain rfl := Option.some.inj first
  rcases mark with rfl | rfl | rfl <;> decide

end Lexeme

/-- Characters that are read as the lexemes of a tree, in front of whatever does not go on with a
numeral. -/
def Tree.IsLexed (t : Tree) (cs : List Char) : Prop :=
  ∀ rest, EndsNumeral rest → Lexeme.ofText (cs ++ rest) = t.lexemes ++ Lexeme.ofText rest

namespace Tree

open Lexeme (ofText_cons ofText_key ofText_gaps ofText_string ofText_null ofText_true ofText_false
  ofText_numeral endsNumeral_mark endsNumeral_gaps)

/-- Items with commas between them are read up to the end of the array. -/
theorem lexed_items {item : Tree × List Char} {items : List (Tree × List Char)}
    (lexed : ∀ i ∈ item :: items, i.1.IsLexed i.2) (rest : List Char) :
    Lexeme.ofText (List.intercalate [','] ((item :: items).map (·.2)) ++ ']' :: rest) =
      itemLexemes ((item :: items).map (·.1)) ++ .closeBracket :: Lexeme.ofText rest := by
  obtain ⟨first, later⟩ := List.forall_mem_cons.mp lexed
  induction items generalizing item with
  | nil =>
    -- The end of the array does not go on with a numeral.
    simp only [List.map_cons, List.map_nil, List.intercalate_singleton, itemLexemes]
    rw [first _ (endsNumeral_mark (by simp) rest), ofText_cons (c := ']') rfl rfl]
  | cons next items ih =>
    -- Neither does a comma, behind which the other items are read.
    obtain ⟨second, others⟩ := List.forall_mem_cons.mp later
    have behind := ih later second others
    simp only [List.map_cons] at behind
    simp only [List.map_cons, List.intercalate_cons_cons, itemLexemes, List.append_assoc,
      List.cons_append, List.nil_append]
    rw [first _ (endsNumeral_mark (by simp) _), ofText_cons (c := ',') rfl rfl, behind]

/-- Members with commas between them are read up to the end of the object. -/
theorem lexed_members {member : (Spelling × Tree) × List Char × List Char}
    {members : List ((Spelling × Tree) × List Char × List Char)}
    (keys : ∀ m ∈ member :: members, m.1.1.IsKey m.2.1)
    (lexed : ∀ m ∈ member :: members, m.1.2.IsLexed m.2.2) (rest : List Char) :
    Lexeme.ofText (List.intercalate [',']
      ((member :: members).map fun m => m.2.1 ++ ':' :: m.2.2) ++ '\x7d' :: rest) =
      memberLexemes ((member :: members).map (·.1)) ++ .closeBrace :: Lexeme.ofText rest := by
  obtain ⟨name, names⟩ := List.forall_mem_cons.mp keys
  obtain ⟨first, later⟩ := List.forall_mem_cons.mp lexed
  -- The induction is on the members behind the first, as a comma stands before each of these.
  induction members generalizing member with
  | nil =>
    simp only [List.map_cons, List.map_nil, List.intercalate_singleton, memberLexemes,
      List.append_assoc, List.cons_append]
    rw [ofText_key name, ofText_cons (c := ':') rfl rfl, first _ (endsNumeral_mark (by simp) rest),
      ofText_cons (c := '\x7d') rfl rfl]
  | cons next members ih =>
    obtain ⟨name', names'⟩ := List.forall_mem_cons.mp names
    obtain ⟨second, others⟩ := List.forall_mem_cons.mp later
    have behind := ih names later name' names' second others
    simp only [List.map_cons] at behind
    simp only [List.map_cons, List.intercalate_cons_cons, memberLexemes, List.append_assoc,
      List.cons_append, List.nil_append]
    rw [ofText_key name, ofText_cons (c := ':') rfl rfl, first _ (endsNumeral_mark (by simp) _),
      ofText_cons (c := ',') rfl rfl, behind]

/-- Items of which each is skipped are skipped. -/
theorem skipItems_ok {items : List Tree} (skips : ∀ t ∈ items, t.skip = .ok ()) :
    skipItems items = .ok () := by
  -- Each item is skipped by itself.
  induction items with
  | nil => rfl
  | cons item rest ih =>
    obtain ⟨first, later⟩ := List.forall_mem_cons.mp skips
    simp [skipItems, first, ih later, bind, Except.bind]

/-- Members of which each key and each value is skipped are skipped. -/
theorem skipMembers_ok {members : List (Spelling × Tree)}
    (skips : ∀ p ∈ members, p.1.skip = .ok () ∧ p.2.skip = .ok ()) :
    skipMembers members = .ok () := by
  -- The key and the value of each member are skipped.
  induction members with
  | nil => rfl
  | cons member rest ih =>
    obtain ⟨⟨key, value⟩, later⟩ := List.forall_mem_cons.mp skips
    simp [skipMembers, key, value, ih later, bind, Except.bind]

namespace IsWritten

variable {t : Tree} {cs : List Char}

/-- What is written is a whole tree. -/
theorem whole (written : t.IsWritten cs) : t.Whole := by
  -- Nothing that is written breaks off.
  induction written with
  | null => exact .null
  | bool value => exact .bool value
  | numeral _ => exact .numeral _
  | string _ => exact .string _
  | array _ _ _ _ ih =>
    refine .array fun t member => ?_
    obtain ⟨i, among, rfl⟩ := List.mem_map.mp member
    exact ih i among
  | object _ _ _ _ _ ih =>
    refine .object fun p member => ?_
    obtain ⟨m, among, rfl⟩ := List.mem_map.mp member
    exact ih m among
  | padded _ _ _ _ _ ih => exact ih

/-- What is written is read as the lexemes of its tree. -/
theorem lexed (written : t.IsWritten cs) : t.IsLexed cs := by
  -- What follows the value must not go on with a numeral, which is what the brackets and commas are
  -- shown for.
  induction written with
  | null => exact fun rest _ => ofText_null rest
  | bool value =>
    intro rest _
    cases value with
    | true => exact ofText_true rest
    | false => exact ofText_false rest
  | numeral written => exact fun rest ends => ofText_numeral written ends
  | string written =>
    intro rest _
    simp only [List.append_assoc, List.cons_append, List.nil_append, lexemes]
    exact ofText_string written rest
  | array items _ blank _ ih =>
    intro rest _
    simp only [List.append_assoc, List.cons_append, List.nil_append, lexemes]
    rw [ofText_cons (c := '[') rfl rfl, ofText_gaps blank]
    cases items with
    | nil => exact congrArg _ (ofText_cons (c := ']') rfl rfl)
    | cons item items => rw [lexed_items ih]
  | object members _ blank keys _ ih =>
    intro rest _
    simp only [List.append_assoc, List.cons_append, List.nil_append, lexemes]
    rw [ofText_cons (c := '\x7b') rfl rfl, ofText_gaps blank]
    cases members with
    | nil => exact congrArg _ (ofText_cons (c := '\x7d') rfl rfl)
    | cons member members => rw [lexed_members keys ih]
  | padded _ _ _ blank blank' ih =>
    -- The blanks in front are dropped, and those behind do not go on with a numeral.
    intro rest ends
    simp only [List.append_assoc]
    rw [ofText_gaps blank, ih _ (endsNumeral_gaps blank' ends), ofText_gaps blank']

/-- A text that is written for a tree is read as it, and nothing follows it. -/
theorem ofText {text : String} (written : t.IsWritten text.toList) :
    Tree.ofText text = (t, false) := by
  -- The lexemes of the whole text are those of the value, with nothing behind them.
  have lexemes := written.lexed [] (by simp [EndsNumeral])
  rw [List.append_nil, Lexeme.ofText_nil, List.append_nil] at lexemes
  simp [Tree.ofText, lexemes, written.whole.build]

/-- What is written is skipped, however deep it is and whatever stands in it. -/
theorem skip (written : t.IsWritten cs) : t.skip = .ok () := by
  induction written with
  | null | bool _ | numeral _ | string _ => rfl
  | array _ _ _ _ ih =>
    have items := skipItems_ok (List.forall_mem_map.mpr ih)
    simp [Tree.skip, items, arraySkipEnd, arrayEnd, bind, Except.bind]
  | object _ _ _ keys _ ih =>
    -- A key is a closed string, which is all that is asked of it.
    have members :=
      skipMembers_ok (List.forall_mem_map.mpr fun m member =>
      ⟨(keys m member).skip, ih m member⟩)
    simp [Tree.skip, members, objectSkipEnd, objectEnd, bind, Except.bind]
  | padded _ _ _ _ _ ih => exact ih

end IsWritten

end Tree

end WatchRelay
