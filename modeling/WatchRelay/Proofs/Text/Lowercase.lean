import WatchRelay.Text.Lowercase
import WatchRelay.Text.Occurs

/-! Phrases that are looked for without regard to case: no letter beyond ASCII has a part in them,
and so it is enough to put the ASCII letters in lower case. -/

namespace WatchRelay

/-- A text is found in another where it stands in it. -/
theorem occursIn_iff {part whole : List Char} : occursIn part whole = true ↔ part <:+: whole := by
  -- Either the part starts here or it occurs in the rest, as the infix relation unfolds.
  induction whole with
  | nil => simp [occursIn]
  | cons c rest ih => simp [occursIn, List.infix_cons_iff, ih]

/-! ## Letters -/

/-- By the rule for ASCII letters, a letter beyond ASCII has no other lower case. -/
theorem toLower_of_beyond {c : Char} (beyond : 0x80 ≤ c.toNat) : c.toLower = c := by
  -- Capitals that the character function lowers stop at Z, far below the bound.
  unfold Char.toLower
  refine dif_neg fun upper => ?_
  have small : c.toNat ≤ 0x5A := upper.2
  omega

/-- Capitals that have their small letters behind them stand below the surrogates, and so do
these. -/
theorem pairedCapitals_low : ∀ r ∈ pairedCapitals, r.2 + 1 < 0xD800 := by
  decide +kernel

/-- Small letters stand beyond ASCII, but for that of the Kelvin sign. -/
theorem shiftedCapitals_beyond : ∀ r ∈ shiftedFirst ++ shiftedSecond, 0x80 ≤ r.2.2 ∨
    r.1 = 0x212A ∧ r.2.1 = 0x212A := by
  decide +kernel

/-- Small letters do not reach into the surrogates. -/
theorem shiftedCapitals_valid : ∀ r ∈ shiftedFirst ++ shiftedSecond,
    r.2.2 + (r.2.1 - r.1) < 0xD800 ∨ 0xDFFF < r.2.2 ∧ r.2.2 + (r.2.1 - r.1) < 0x110000 := by
  decide +kernel

/-- A small letter is the one behind its capital, or it is as far from the first of its range as its
capital is, or the letter has no other. -/
theorem smallPoint_cases (point : Nat) :
    (smallPoint point = point + 1 ∧ point + 1 < 0xD800) ∨
      (∃ r ∈ shiftedFirst ++ shiftedSecond, (r.1 ≤ point ∧ point ≤ r.2.1) ∧
        smallPoint point = r.2.2 + (point - r.1)) ∨
      smallPoint point = point := by
  unfold smallPoint
  -- The two tables are asked one after the other.
  split
  · next paired =>
    obtain ⟨r, row, inside⟩ := List.any_eq_true.mp paired
    have low := pairedCapitals_low r row
    simp only [Bool.and_eq_true, decide_eq_true_eq] at inside
    exact .inl ⟨rfl, by omega⟩
  · split
    · next low high small found =>
      have inside := List.find?_some found
      simp only [Bool.and_eq_true, decide_eq_true_eq] at inside
      exact .inr (.inl ⟨_, List.mem_of_find?_eq_some found, inside, rfl⟩)
    · exact .inr (.inr rfl)

/-- Of the letters beyond ASCII, the Kelvin sign alone has a small letter in ASCII. -/
theorem smallPoint_beyond {point : Nat} (beyond : 0x80 ≤ point) (other : point ≠ 0x212A) :
    0x80 ≤ smallPoint point := by
  -- Only the Kelvin sign goes below the bound, every shift of the table stays above it.
  rcases smallPoint_cases point with ⟨next, -⟩ | ⟨r, row, inside, shifted⟩ | same
  · omega
  · have := shiftedCapitals_beyond r row
    omega
  · omega

/-- A letter has a letter as its small one. -/
theorem smallPoint_valid {point : Nat} (valid : point.isValidChar) :
    (smallPoint point).isValidChar := by
  -- A shifted capital stays on its side of the surrogates.
  rcases smallPoint_cases point with ⟨next, low⟩ | ⟨r, row, inside, shifted⟩ | same
  · rw [next]
    exact .inl low
  · rw [shifted]
    rcases shiftedCapitals_valid r row with low | high
    · exact .inl (by omega)
    · exact .inr (by omega)
  · rwa [same]

/-- A letter stands at the place it is taken from. -/
theorem toNat_ofNat {point : Nat} (valid : point.isValidChar) :
    (Char.ofNat point).toNat = point := by
  rw [Char.ofNat, dif_pos valid]
  rfl

/-- What stands in lower case for a letter beyond ASCII. -/
inductive IsForeign : List Char → Prop where
  | dotted : IsForeign ['i', '\u0307']
  | kelvin : IsForeign ['k']
  | beyond {c : Char} (beyond : 0x80 ≤ c.toNat) : IsForeign [c]

/-- Beyond ASCII, a letter has a small letter beyond ASCII, but for the Kelvin sign and the capital
I with a dot. -/
theorem isForeign_lowerLetter {c : Char} (beyond : 0x80 ≤ c.toNat) :
    IsForeign (lowerLetter c) := by
  unfold lowerLetter
  -- The dotted capital and the Kelvin sign are the two that leave something in ASCII.
  rw [if_neg (by omega)]
  split
  · exact .dotted
  · by_cases kelvin : c.toNat = 0x212A
    · rw [kelvin, show Char.ofNat (smallPoint 0x212A) = 'k' by decide +kernel]
      exact .kelvin
    · have valid : c.toNat.isValidChar := c.valid
      refine .beyond ?_
      rw [toNat_ofNat (smallPoint_valid valid)]
      exact smallPoint_beyond beyond kelvin

/-! ## Phrases -/

variable (ends : List Char → List Char → Bool)

/-- Letter by letter, a text is put in lower case by the rule for ASCII, or what stands for the
letter is foreign. -/
theorem lowercase_cons (before : List Char) (c : Char) (rest : List Char) :
    (lowercase ends before (c :: rest) = c.toLower :: lowercase ends (c :: before) rest) ∨
      0x80 ≤ c.toNat ∧ ∃ image, IsForeign image ∧
        lowercase ends before (c :: rest) = image ++ lowercase ends (c :: before) rest := by
  rcases Nat.lt_or_ge c.toNat 0x80 with ascii | beyond
  · have other : ¬ (c.toNat = 0x3A3 && ends before rest) = true := by
      simp only [Bool.and_eq_true, decide_eq_true_eq]
      omega
    refine .inl ?_
    rw [lowercase, if_neg other, lowerLetter, if_pos ascii]
    rfl
  · refine .inr ⟨beyond, _, ?_, rfl⟩
    split
    -- Either small sigma is beyond ASCII, so it does not matter where the word ends.
    · exact .beyond (by decide)
    · exact isForeign_lowerLetter beyond

example : lowercase (fun _ after => after.head? == some ' ') [] "ΣΟΦΟΣ İ\u212A".toList =
  "σοφος i\u0307k".toList := by
  decide +kernel

/-- Whether no letter beyond ASCII has a part in a phrase: it is all ASCII, has no `k`, and does not
end in an `i`, which a dot of its own could follow. -/
structure IsPlain (part : List Char) : Prop where
  ascii : ∀ c ∈ part, c.toNat < 0x80
  noKelvin : 'k' ∉ part
  noDotted : part.getLast? ≠ some 'i'

/-- What is behind the first letter of a plain phrase is plain. -/
theorem IsPlain.tail {c : Char} {rest : List Char} (plain : IsPlain (c :: rest)) :
    IsPlain rest where
  ascii := (List.forall_mem_cons.mp plain.ascii).2
  noKelvin := fun among => plain.noKelvin (List.mem_cons_of_mem _ among)
  -- A dotted letter in the rest would be one in the whole.
  noDotted := by
    cases rest with
    | nil => simp
    | cons d rest => exact plain.noDotted

/-- No plain phrase begins at a letter beyond ASCII. -/
theorem IsPlain.not_prefix {c : Char} {part : List Char} (plain : IsPlain (c :: part))
    {image : List Char}
    (foreign : IsForeign image) (rest : List Char) : ¬ c :: part <+: image ++ rest := by
  intro begins
  obtain ⟨ascii, later⟩ := List.forall_mem_cons.mp plain.ascii
  cases foreign with
  | dotted =>
    -- The phrase would go on with the dot behind the `i`.
    obtain ⟨rfl, behind⟩ := List.cons_prefix_cons.mp begins
    cases part with
    | nil => exact plain.noDotted rfl
    | cons d part =>
      obtain ⟨rfl, -⟩ := List.cons_prefix_cons.mp behind
      exact absurd (later _ List.mem_cons_self) (by decide)
  | kelvin =>
    obtain ⟨rfl, -⟩ := List.cons_prefix_cons.mp begins
    exact plain.noKelvin List.mem_cons_self
  | beyond beyond =>
    obtain ⟨rfl, -⟩ := List.cons_prefix_cons.mp begins
    omega

/-- A plain phrase that stands behind or at a letter beyond ASCII stands behind it. -/
theorem IsPlain.infix_iff {c : Char} {part : List Char} (plain : IsPlain (c :: part))
    {image : List Char}
    (foreign : IsForeign image) (rest : List Char) :
    c :: part <:+: image ++ rest ↔ c :: part <:+: rest := by
  have skips := plain.not_prefix foreign rest
  cases foreign with
  | dotted =>
    -- The phrase begins neither at the `i` nor at the dot behind it.
    have dot : IsForeign ['\u0307'] := .beyond (by decide)
    rw [List.cons_append, List.infix_cons_iff, List.cons_append, List.infix_cons_iff,
      List.nil_append]
    exact ⟨fun h => (h.resolve_left skips).resolve_left (plain.not_prefix dot rest), fun h =>
      .inr (.inr h)⟩
  | kelvin | beyond _ =>
    rw [List.cons_append, List.infix_cons_iff, List.nil_append]
    exact ⟨fun h => h.resolve_left skips, .inr⟩

/-- A plain phrase begins a text in lower case if it begins the text with only its ASCII letters in
lower case. -/
theorem IsPlain.prefix_lowercase {part : List Char} (plain : IsPlain part)
    (before text : List Char) :
    part <+: lowercase ends before text ↔ part <+: text.map Char.toLower := by
  -- The induction is on the text; of the phrase, what is behind its first letter is plain again.
  induction text generalizing part before with
  | nil => rfl
  | cons c rest ih =>
    cases part with
    | nil => simp
    | cons p part =>
      rw [List.map_cons]
      rcases lowercase_cons ends before c rest with ascii | ⟨beyond, image, foreign, lowered⟩
      · rw [ascii, List.cons_prefix_cons, List.cons_prefix_cons, ih plain.tail]
      · rw [lowered, toLower_of_beyond beyond]
        exact iff_of_false (plain.not_prefix foreign _) (plain.not_prefix (.beyond beyond) _)

/-- A plain phrase stands in a text in lower case if it stands in the text with only its ASCII
letters in lower case. -/
theorem IsPlain.infix_lowercase {part : List Char} (plain : IsPlain part) (full : part ≠ [])
    (before text : List Char) : part <:+: lowercase ends before text ↔
    part <:+: text.map Char.toLower := by
  obtain ⟨p, part, rfl⟩ := List.exists_cons_of_ne_nil full
  -- The induction is on the text: the phrase begins at its first letter, or stands behind it.
  induction text generalizing before with
  | nil => rfl
  | cons c rest ih =>
    have begins := plain.prefix_lowercase ends before (c :: rest)
    rw [List.map_cons] at begins ⊢
    rcases lowercase_cons ends before c rest with ascii | ⟨beyond, image, foreign, lowered⟩
    · rw [ascii] at begins ⊢
      rw [List.infix_cons_iff, List.infix_cons_iff, begins, ih]
    -- Neither a letter beyond ASCII nor what stands for it begins the phrase.
    · rw [lowered, toLower_of_beyond beyond, plain.infix_iff foreign, ih]
      exact (plain.infix_iff (.beyond beyond) _).symm

end WatchRelay
