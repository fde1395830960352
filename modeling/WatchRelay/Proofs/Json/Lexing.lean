import Mathlib.Data.List.TakeDrop
import Mathlib.Data.List.TakeWhile
import WatchRelay.Json.Lexeme
import WatchRelay.Proofs.Outcome

/-! Lexeme after lexeme: each leaves a part of the text behind it, so the lexemes of a text are its
first one and those of what that leaves. -/

namespace WatchRelay

/-- Digits, one at least. -/
def IsDigits (ds : List Char) : Prop := ds ≠ [] ∧ ∀ c ∈ ds, c.isDigit = true

/-- Characters of which the first is no digit, if there is one. -/
def EndsDigits (cs : List Char) : Prop := ∀ c ∈ cs.head?, c.isDigit = false

/-- Characters that do not go on with a numeral in front of them. -/
def EndsNumeral (cs : List Char) : Prop :=
  ∀ c ∈ cs.head?, c.isDigit = false ∧ c ≠ '.' ∧ c ≠ 'e' ∧ c ≠ 'E'

/-- What does not go on with a numeral does not go on with digits. -/
theorem EndsNumeral.endsDigits {cs : List Char} (ends : EndsNumeral cs) : EndsDigits cs :=
  fun c first => (ends c first).1

namespace Numeral

/-- The characters of a fraction, which may be absent. -/
def fractionChars (fraction : Option (List Char)) : List Char := fraction.elim [] ('.' :: ·)

/-- The characters an exponent may be written with, which may be absent: its letter in either case,
its sign, which may be left out unless it is a minus, and its digits. -/
inductive PowerText : Option (Bool × List Char) → List Char → Prop where
  | absent : PowerText none []
  | bare {letter : Char} {ds : List Char} (mark : letter = 'e' ∨ letter = 'E') :
      PowerText (some (false, ds)) (letter :: ds)
  | plus {letter : Char} {ds : List Char} (mark : letter = 'e' ∨ letter = 'E') :
      PowerText (some (false, ds)) (letter :: '+' :: ds)
  | minus {letter : Char} {ds : List Char} (mark : letter = 'e' ∨ letter = 'E') :
      PowerText (some (true, ds)) (letter :: '-' :: ds)

/-- A numeral whose parts have digits, and whose whole part starts with a zero only if it is one. -/
structure IsProper (n : Numeral) : Prop where
  whole : IsDigits n.whole
  lead : n.whole.head? = some '0' → n.whole = ['0']
  fraction : ∀ ds ∈ n.fraction, IsDigits ds
  power : ∀ p ∈ n.power, IsDigits p.2

/-- The characters a proper numeral may be written with. -/
inductive IsWritten : Numeral → List Char → Prop where
  | parts {n : Numeral} {power : List Char} (proper : n.IsProper)
      (powered : PowerText n.power power) :
      IsWritten n
        ((if n.negative then ['-'] else []) ++ (n.whole ++ (fractionChars n.fraction ++ power)))

end Numeral

namespace Lexeme

/-- A word is spelled by its letters. -/
theorem spells_eq_ok {letters cs rest : List Char} :
    spells letters cs = .ok rest ↔ cs = letters ++ rest := by
  -- The letters are compared one by one with those of the text.
  fun_induction spells letters cs with
  | case1 cs => simp
  | case2 => simp
  | case3 letters c cs ih => simpa using ih
  | case4 letter letters c cs differ => simp [differ]

/-- Digits are read as far as they go. -/
theorem digits_eq_ok {cs ds rest : List Char} :
    digits cs = .ok (ds, rest) ↔ cs = ds ++ rest ∧ IsDigits ds ∧ EndsDigits rest := by
  -- The digits are all those at the front, so what follows them begins with no digit.
  unfold digits
  rw [List.span_eq_takeWhile_dropWhile]
  constructor
  · intro reads
    split at reads
    · cases reads
    · next ds' rest' nonempty parts =>
      obtain ⟨rfl, rfl⟩ := Prod.mk.inj (Except.ok.inj reads)
      obtain ⟨rfl, rfl⟩ := Prod.mk.inj parts
      refine ⟨List.takeWhile_append_dropWhile.symm, ⟨nonempty, ?_⟩, fun c first => ?_⟩
      · exact fun c member => List.mem_takeWhile_imp member
      · have after := List.head?_dropWhile_not Char.isDigit cs
        rwa [Option.mem_def.mp first] at after
  · rintro ⟨rfl, ⟨nonempty, all⟩, ends⟩
    -- Of what follows the digits, nothing is a digit at the front.
    have before : rest.takeWhile Char.isDigit = [] := by
      cases rest with
      | nil => rfl
      | cons c rest => simp [ends c rfl]
    have behind : rest.dropWhile Char.isDigit = rest := by
      cases rest with
      | nil => rfl
      | cons c rest => simp [ends c rfl]
    rw [List.takeWhile_append_of_pos all, List.dropWhile_append_of_pos all, before, behind,
      List.append_nil]
    split
    · next empty => exact absurd (Prod.mk.inj empty).1 nonempty
    · next same => rw [same]

/-- The whole part of a numeral is read as far as its digits go, and starts with a zero only if it
is one. -/
theorem wholePart_eq_ok {cs ds rest : List Char} :
    wholePart cs = .ok (ds, rest) ↔
      cs = ds ++ rest ∧ IsDigits ds ∧ EndsDigits rest ∧
      (ds.head? = some '0' → ds = ['0']) := by
  unfold wholePart
  split
  · next later =>
    -- No digit may follow a zero.
    have alone : EndsDigits later ∧ (['0'], later) = (ds, rest) ↔
        '0' :: later = ds ++ rest ∧ IsDigits ds ∧ EndsDigits rest ∧
          (ds.head? = some '0' → ds = ['0']) := by
      constructor
      · rintro ⟨ends, same⟩
        obtain ⟨rfl, rfl⟩ := Prod.mk.inj same
        exact ⟨rfl, ⟨by simp, by simp⟩, ends, fun _ => rfl⟩
      · rintro ⟨text, ⟨nonempty, -⟩, ends, zero⟩
        cases ds with
        | nil => exact absurd rfl nonempty
        | cons d ds =>
          obtain ⟨rfl, behind⟩ := List.cons.inj text
          obtain ⟨-, rfl⟩ := List.cons.inj (zero rfl)
          obtain rfl : later = rest := behind
          exact ⟨ends, rfl⟩
    rw [← alone]
    cases later with
    | nil => simp [EndsDigits]
    | cons c later => cases digit : c.isDigit <;> simp [EndsDigits, digit]
  · next nonzero =>
    rw [digits_eq_ok]
    constructor
    · rintro ⟨rfl, some_, ends⟩
      refine ⟨rfl, some_, ends, fun zero => ?_⟩
      obtain ⟨later, rfl⟩ := List.head?_eq_some_iff.mp zero
      exact absurd rfl (nonzero (later ++ rest))
    · rintro ⟨rfl, some_, ends, -⟩
      exact ⟨rfl, some_, ends⟩

/-- Digits leave the end of a text. -/
theorem digits_suffix {cs ds rest : List Char} (reads : digits cs = .ok (ds, rest)) :
    rest <:+ cs := by
  obtain ⟨rfl, -⟩ := digits_eq_ok.mp reads
  exact List.suffix_append ds rest

/-- Digits leave the end of a text also where something is made of them, and behind marks before
them. -/
theorem map_digits_suffix {α : Type} {f : List Char × List Char → α × List Char}
    {cs rest : List Char} {a : α} (reads : f <$> digits cs = .ok (a, rest))
    (keeps : ∀ p, (f p).2 = p.2)
    (before : List Char) : rest <:+ before ++ cs := by
  -- The digits are taken off behind the letters before them.
  obtain ⟨⟨ds, left⟩, read, same⟩ := Outcome.map_eq_ok.mp reads
  obtain rfl : rest = left := by simpa [same] using keeps (ds, left)
  exact (digits_suffix read).trans (List.suffix_append before cs)

/-- A fraction leaves the end of a text. -/
theorem fractionPart_suffix {cs rest : List Char} {fraction : Option (List Char)}
    (reads : fractionPart cs = .ok (fraction, rest)) : rest <:+ cs := by
  unfold fractionPart at reads
  split at reads
  · exact map_digits_suffix reads (fun _ => rfl) ['.']
  · -- Without a point nothing is taken.
    obtain ⟨-, rfl⟩ := Prod.mk.inj (Except.ok.inj reads)
    exact List.suffix_rfl

/-- An exponent leaves the end of a text. -/
theorem powerPart_suffix {cs rest : List Char} {power : Option (Bool × List Char)}
    (reads : powerPart cs = .ok (power, rest)) : rest <:+ cs := by
  unfold powerPart at reads
  split at reads
  · next c later =>
    split at reads
    · -- A sign may stand between the letter and the digits.
      split at reads
      · exact map_digits_suffix reads (fun _ => rfl) [c, '+']
      · exact map_digits_suffix reads (fun _ => rfl) [c, '-']
      · exact map_digits_suffix reads (fun _ => rfl) [c]
    · obtain ⟨-, rfl⟩ := Prod.mk.inj (Except.ok.inj reads)
      exact List.suffix_rfl
  · obtain ⟨-, rfl⟩ := Prod.mk.inj (Except.ok.inj reads)
    exact List.suffix_rfl

/-- A numeral takes a character at least and leaves the end of a text. -/
theorem numeralAt_suffix (negative : Bool) (c : Char) (cs : List Char) :
    (numeralAt negative (c :: cs)).2 <:+ cs := by
  unfold numeralAt
  split
  · next n rest reads =>
    obtain ⟨⟨ds, behind⟩, whole, reads⟩ := Outcome.bind_eq_ok.mp reads
    obtain ⟨⟨fraction, behind'⟩, fractional, reads⟩ := Outcome.bind_eq_ok.mp reads
    obtain ⟨⟨power, left⟩, powered, same⟩ := Outcome.bind_eq_ok.mp reads
    obtain ⟨-, rfl⟩ := Prod.mk.inj (Except.ok.inj same)
    refine ((powerPart_suffix powered).trans (fractionPart_suffix fractional)).trans ?_
    -- The whole part has a digit, which is the first character.
    obtain ⟨text, ⟨nonempty, -⟩, -⟩ := wholePart_eq_ok.mp whole
    cases ds with
    | nil => exact absurd rfl nonempty
    | cons d ds =>
      obtain ⟨-, rfl⟩ := List.cons.inj text
      exact List.suffix_append ds behind
  · exact List.nil_suffix

/-- What is left of a text behind a string is the end of it. -/
theorem stringBody_suffix (cs : List Char) : (stringBody cs).2.2 <:+ cs := by
  fun_induction stringBody cs with
  | case1 => exact List.suffix_rfl
  | case2 rest => exact List.suffix_cons _ rest
  -- An escape takes two or six characters, and any other character is taken alone.
  | case3 a b c d rest u unit ih =>
    exact ih.trans (List.suffix_append ['\\', 'u', a, b, c, d] rest)
  | case6 c rest _ _ e short ih => exact ih.trans (List.suffix_append ['\\', c] rest)
  | case10 c rest _ _ _ _ _ _ ih => exact ih.trans (List.suffix_cons c rest)
  | _ => exact List.nil_suffix

/-- A word leaves the end of a text. -/
theorem word_suffix (value : Lexeme) (flaw : Bool → Flaw) (letters cs : List Char) :
    (word value flaw letters cs).2 <:+ cs := by
  -- The letters were there, or nothing is left of the text.
  unfold word
  split
  · next rest reads =>
    rw [spells_eq_ok.mp reads]
    exact List.suffix_append letters rest
  · exact List.nil_suffix

/-- A lexeme leaves the end of the text behind its first character. -/
theorem startingWith_suffix (c : Char) (cs : List Char) : (startingWith c cs).2 <:+ cs := by
  unfold startingWith
  split
  -- The three words.
  case h_7 | h_8 | h_9 => exact word_suffix ..
  -- A string.
  case h_10 => exact stringBody_suffix cs
  -- A numeral behind its sign.
  case h_11 =>
    cases cs with
    | nil => exact List.suffix_rfl
    | cons c cs => exact (numeralAt_suffix true c cs).trans (List.suffix_cons c cs)
  -- A numeral, or a character that starts nothing.
  case h_12 =>
    split
    · exact numeralAt_suffix ..
    · exact List.nil_suffix
  -- The marks.
  all_goals exact List.suffix_rfl

/-- Fuel that is as long as the text suffices, however much there is. -/
theorem upTo_congr {fuel fuel' : Nat} {cs : List Char} (enough : cs.length ≤ fuel)
    (enough' : cs.length ≤ fuel') : upTo fuel cs = upTo fuel' cs := by
  -- Each lexeme leaves fewer characters than there were, so the fuel left still suffices.
  induction fuel generalizing fuel' cs with
  | zero =>
    obtain rfl : cs = [] := List.eq_nil_of_length_eq_zero (Nat.le_zero.mp enough)
    cases fuel' <;> rfl
  | succ fuel ih =>
    cases fuel' with
    | zero =>
      obtain rfl : cs = [] := List.eq_nil_of_length_eq_zero (Nat.le_zero.mp enough')
      rfl
    | succ fuel' =>
      simp only [upTo]
      split
      · rfl
      · next c rest after =>
        have left : (startingWith c rest).2.length < cs.length := by
          have shorter := (startingWith_suffix c rest).length_le
          have gapless := (List.dropWhile_suffix (l := cs) isGap).length_le
          rw [after, List.length_cons] at gapless
          omega
        rw [@ih fuel' _ (by omega) (by omega)]

/-- No text, no lexemes. -/
@[simp] theorem ofText_nil : ofText [] = [] := rfl

/-- The lexemes of a text are the one it starts with and those of what that leaves. -/
theorem ofText_cons {c : Char} {cs rest : List Char} {l : Lexeme} (gapless : isGap c = false)
    (starts : startingWith c cs = (l, rest)) : ofText (c :: cs) = l :: ofText rest := by
  -- The lexeme takes at least its first character.
  have shorter := (startingWith_suffix c cs).length_le
  rw [starts] at shorter
  rw [ofText, List.length_cons, upTo, List.dropWhile_cons_of_neg (by simp [gapless])]
  simp only [starts]
  rw [upTo_congr shorter le_rfl, ofText]

/-- The word `null` is the first lexeme of a text. -/
theorem ofText_null (rest : List Char) :
    ofText ('n' :: 'u' :: 'l' :: 'l' :: rest) = .null :: ofText rest :=
  ofText_cons rfl rfl

/-- The word `true` is the first lexeme of a text. -/
theorem ofText_true (rest : List Char) :
    ofText ('t' :: 'r' :: 'u' :: 'e' :: rest) = .bool true :: ofText rest :=
  ofText_cons rfl rfl

/-- The word `false` is the first lexeme of a text. -/
theorem ofText_false (rest : List Char) :
    ofText ('f' :: 'a' :: 'l' :: 's' :: 'e' :: rest) = .bool false :: ofText rest :=
  ofText_cons rfl rfl

/-- An exponent is read in front of what does not go on with it. -/
theorem powerPart_text {power : Option (Bool × List Char)} {cs rest : List Char}
    (text : Numeral.PowerText power cs) (proper : ∀ p ∈ power, IsDigits p.2)
    (ends : EndsNumeral rest) :
    powerPart (cs ++ rest) = .ok (power, rest) := by
  -- The power is missing, or it is written with a sign or without one.
  cases text with
  | absent =>
    cases rest with
    | nil => rfl
    | cons c rest =>
      obtain ⟨-, -, small, large⟩ := ends c rfl
      simp [powerPart, small, large]
  | bare mark =>
    -- The first digit is no sign, so no sign is taken.
    obtain ⟨nonempty, all⟩ := proper _ rfl
    obtain ⟨d, ds, rfl⟩ := List.exists_cons_of_ne_nil nonempty
    have digit : d.isDigit = true := all d (by simp)
    have plus : d ≠ '+' := by rintro rfl; cases digit
    have minus : d ≠ '-' := by rintro rfl; cases digit
    have reads := digits_eq_ok.mpr ⟨rfl, proper _ rfl, ends.endsDigits⟩
    rw [List.cons_append] at reads
    simp [powerPart, mark, plus, minus, reads, Functor.map, Except.map]
  | plus mark | minus mark =>
    have reads := digits_eq_ok.mpr ⟨rfl, proper _ rfl, ends.endsDigits⟩
    simp [powerPart, mark, reads, Functor.map, Except.map]

/-- A fraction is read in front of what does not go on with it. -/
theorem fractionPart_chars {fraction : Option (List Char)} {rest : List Char}
    (proper : ∀ ds ∈ fraction, IsDigits ds) (ends : EndsDigits rest)
    (point : rest.head? ≠ some '.') :
    fractionPart (Numeral.fractionChars fraction ++ rest) = .ok (fraction, rest) := by
  -- Without a fraction no point follows, and with one the digits behind it are read.
  cases fraction with
  | none =>
    cases rest with
    | nil => rfl
    | cons c rest =>
      have other : c ≠ '.' := by simpa using point
      simp [Numeral.fractionChars, fractionPart, other]
  | some ds =>
    have reads := digits_eq_ok.mpr ⟨rfl, proper ds rfl, ends⟩
    simp [Numeral.fractionChars, fractionPart, reads, Functor.map, Except.map]

/-- Neither an exponent nor what ends a numeral goes on with digits or with a point. -/
theorem powerText_ends {power : Option (Bool × List Char)} {cs rest : List Char}
    (text : Numeral.PowerText power cs) (ends : EndsNumeral rest) :
    ∀ c ∈ (cs ++ rest).head?, c.isDigit = false ∧ c ≠ '.' := by
  intro c first
  -- Without a power what follows the number is looked at. With one it is the letter.
  cases text with
  | absent =>
    obtain ⟨digit, point, -⟩ := ends c first
    exact ⟨digit, point⟩
  | bare mark | plus mark | minus mark =>
    obtain rfl := Option.some.inj first
    rcases mark with rfl | rfl <;> exact ⟨rfl, by decide⟩

/-- Neither a fraction nor what ends digits goes on with digits. -/
theorem fractionChars_ends (fraction : Option (List Char)) {rest : List Char}
    (ends : EndsDigits rest) :
    EndsDigits (Numeral.fractionChars fraction ++ rest) := by
  intro c first
  -- Without a fraction what follows is looked at. With one it is the point.
  cases fraction with
  | none => exact ends c first
  | some ds =>
    obtain rfl : '.' = c := by simpa [Numeral.fractionChars] using first
    rfl

/-- A proper numeral is read behind its sign, in front of what does not go on with it. -/
theorem numeralParts_text {n : Numeral} {cs rest : List Char} (proper : n.IsProper)
    (text : Numeral.PowerText n.power cs) (ends : EndsNumeral rest) :
    numeralParts n.negative (n.whole ++ (Numeral.fractionChars n.fraction ++ (cs ++ rest))) =
      .ok (n, rest) := by
  have power : EndsDigits (cs ++ rest) := fun c first => (powerText_ends text ends c first).1
  have point : (cs ++ rest).head? ≠ some '.' :=
    fun first => (powerText_ends text ends '.' first).2 rfl
  -- The three parts are read one after another, each as far as its digits go.
  have whole :=
    wholePart_eq_ok.mpr ⟨rfl, proper.whole, fractionChars_ends n.fraction power, proper.lead⟩
  have fraction := fractionPart_chars proper.fraction power point
  have powered := powerPart_text text proper.power ends
  simp [numeralParts, whole, fraction, powered, bind, Except.bind]

/-- A digit starts a numeral without a sign. -/
theorem startingWith_digit {c : Char} (digit : c.isDigit = true) (rest : List Char) :
    startingWith c rest = numeralAt false (c :: rest) := by
  -- Of what a lexeme can start with, only a number starts with a digit.
  unfold startingWith
  split
  case h_12 => rw [if_pos digit]
  all_goals cases digit

/-- A digit is no gap. -/
theorem isGap_digit {c : Char} (digit : c.isDigit = true) : isGap c = false := by
  -- The gaps are four characters, and none of them is a digit.
  cases gap : isGap c with
  | false => rfl
  | true =>
    simp only [isGap, Bool.or_eq_true, beq_iff_eq] at gap
    rcases gap with ((rfl | rfl) | rfl) | rfl <;> cases digit

/-- A numeral is the first lexeme of a text that does not go on with it. -/
theorem ofText_numeral {n : Numeral} {cs rest : List Char} (written : n.IsWritten cs)
    (ends : EndsNumeral rest) : ofText (cs ++ rest) = .numeral n :: ofText rest := by
  obtain ⟨proper, powered⟩ := written
  have parts := numeralParts_text proper powered ends
  cases sign : n.negative with
  | true =>
    -- The sign comes first.
    rw [sign] at parts
    simp only [if_pos, List.append_assoc, List.cons_append, List.nil_append]
    exact ofText_cons rfl (by simp [startingWith, numeralAt, parts])
  | false =>
    -- A digit comes first, and belongs to the numeral itself.
    rw [sign] at parts
    obtain ⟨d, ds, same⟩ := List.exists_cons_of_ne_nil proper.whole.1
    have digit : d.isDigit = true := proper.whole.2 d (by simp [same])
    rw [same] at parts ⊢
    simp only [Bool.false_eq_true, if_false, List.append_assoc, List.cons_append,
      List.nil_append] at parts ⊢
    exact ofText_cons (isGap_digit digit) (by simp [startingWith_digit digit, numeralAt, parts])

/-- Blanks in front of a text change none of its lexemes. -/
theorem ofText_gaps {gap : List Char} (blank : ∀ c ∈ gap, isGap c = true) (cs : List Char) :
    ofText (gap ++ cs) = ofText cs := by
  -- A blank is dropped before the first lexeme is looked for.
  induction gap with
  | nil => rfl
  | cons c gap ih =>
    obtain ⟨first, later⟩ := List.forall_mem_cons.mp blank
    rw [← ih later, List.cons_append, ofText, List.length_cons, upTo,
      List.dropWhile_cons_of_pos first, ofText, ← upTo_congr (Nat.le_succ _) le_rfl, upTo]

/-- Blanks do not go on with a numeral. -/
theorem endsNumeral_gaps {gap rest : List Char} (blank : ∀ c ∈ gap, isGap c = true)
    (ends : EndsNumeral rest) : EndsNumeral (gap ++ rest) := by
  -- A gap does not go on with a number, and without one what follows is looked at.
  cases gap with
  | nil => exact ends
  | cons g gap =>
    intro c first
    obtain rfl := Option.some.inj first
    have space := blank g (by simp)
    simp only [isGap, Bool.or_eq_true, beq_iff_eq] at space
    rcases space with ((rfl | rfl) | rfl) | rfl <;> decide

end Lexeme

end WatchRelay
