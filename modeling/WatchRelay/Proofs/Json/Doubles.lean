import Mathlib.Algebra.Order.Field.Power
import Mathlib.Data.Rat.Cast.Order
import Mathlib.Tactic.NormNum
import Mathlib.Tactic.Positivity
import Mathlib.Tactic.Ring
import WatchRelay.Proofs.Json.Printing

/-! The numerals of doubles: the digits of one that is not zero are those of a number that is not
zero either. -/

namespace WatchRelay

/-- A double as it is held: 53 bits of mantissa, and an exponent that keeps the value in range. -/
structure Double.IsHeld (d : Double) : Prop where
  mantissa : d.mantissa < Nat.pow 2 53
  low : -1074 ≤ d.exponent
  high : d.exponent ≤ 971

/-- A number as it is held: an integer, or a double as it is held. -/
def Number.IsHeld : Number → Prop
  | .integer _ => True
  | .double d => d.IsHeld

namespace Decimal

/-- Both parts of the ratio of a number that is not zero are positive. -/
theorem ratio_pos {m : Nat} (e p : Int) (some_ : m ≠ 0) :
    0 < (ratio m e p).1 ∧ 0 < (ratio m e p).2 := by
  -- Both sides are products of powers.
  have two (k : Nat) : 0 < Nat.pow 2 k := Nat.pow_pos (by decide)
  have ten (k : Nat) : 0 < Nat.pow 10 k := Nat.pow_pos (by decide)
  exact ⟨Nat.mul_pos (Nat.mul_pos (Nat.pos_of_ne_zero some_) (two _)) (ten _),
    Nat.mul_pos (two _) (ten _)⟩

/-- The first part of the ratio is no less than the second exactly if the power of ten is no more
than the number. -/
theorem ratio_le_iff (m : Nat) (e p : Int) :
    (ratio m e p).2 ≤ (ratio m e p).1 ↔ (10 : ℚ) ^ p ≤ m * 2 ^ e := by
  have split (b : ℚ) (positive : b ≠ 0) (k : Int) : b ^ k * b ^ (-k).toNat = b ^ k.toNat := by
    rw [← zpow_natCast, ← zpow_natCast, ← zpow_add₀ positive]
    congr 1
    omega
  have two := split 2 (by norm_num) e
  have ten := split 10 (by norm_num) p
  -- Both sides are multiplied by the powers that stand with a negative exponent.
  have scale : (0 : ℚ) < 2 ^ (-e).toNat * 10 ^ (-p).toNat := by positivity
  have left : ((ratio m e p).2 : ℚ) = 10 ^ p * (2 ^ (-e).toNat * 10 ^ (-p).toNat) := by
    simp only [ratio, Nat.pow_eq, Nat.cast_mul, Nat.cast_pow, Nat.cast_ofNat, ← ten]
    ring
  have right : ((ratio m e p).1 : ℚ) = m * 2 ^ e * (2 ^ (-e).toNat * 10 ^ (-p).toNat) := by
    simp only [ratio, Nat.pow_eq, Nat.cast_mul, Nat.cast_pow, Nat.cast_ofNat, ← two]
    ring
  rw [← Nat.cast_le (α := ℚ), left, right, mul_le_mul_iff_left₀ scale]

/-- A power of ten is no more than a power of two whose exponent is not too far from zero, if its
own is a little less than that many bits have digits. -/
theorem ten_zpow_le_two_zpow {b p : Int} (low : -1100 ≤ b) (high : b ≤ 1100)
    (small : p ≤ (b * 30103).fdiv 100000 - 19) : (10 : ℚ) ^ p ≤ 2 ^ b := by
  rw [Int.fdiv_eq_ediv_of_nonneg _ (by decide)] at small
  by_cases negative : b < 0
  · -- Thirteen bits are less than four digits.
    have step : ((10 : ℚ) ^ (-4 : Int)) ^ (-(b / 13)) ≤ (2 ^ (-13 : Int)) ^ (-(b / 13)) :=
      zpow_le_zpow_left₀ (by omega) (by positivity) (by norm_num)
    calc (10 : ℚ) ^ p ≤ 10 ^ (-4 * -(b / 13)) := zpow_le_zpow_right₀ (by norm_num) (by omega)
      _ ≤ 2 ^ (-13 * -(b / 13)) := by rwa [zpow_mul, zpow_mul]
      _ ≤ 2 ^ b := zpow_le_zpow_right₀ (by norm_num) (by omega)
  · -- Three digits are less than ten bits.
    have step : ((10 : ℚ) ^ (3 : Int)) ^ (b / 10) ≤ (2 ^ (10 : Int)) ^ (b / 10) :=
      zpow_le_zpow_left₀ (by omega) (by norm_num) (by norm_num)
    calc (10 : ℚ) ^ p ≤ 10 ^ (3 * (b / 10)) := zpow_le_zpow_right₀ (by norm_num) (by omega)
      _ ≤ 2 ^ (10 * (b / 10)) := by rwa [zpow_mul, zpow_mul]
      _ ≤ 2 ^ b := zpow_le_zpow_right₀ (by norm_num) (by omega)

/-- The digits a number needs at most reach below its magnitude. -/
theorem ten_zpow_magnitude_le {m : Nat} {e : Int} (some_ : m ≠ 0)
    (low : -1100 ≤ (Nat.log2 m : Int) + e)
    (high : (Nat.log2 m : Int) + e ≤ 1100) : (10 : ℚ) ^ (magnitude m e - 18) ≤ m * 2 ^ e := by
  have below {p q : Int} (fits : (ratio m e p).2 ≤ (ratio m e p).1) (less : q ≤ p) :
      (10 : ℚ) ^ q ≤ m * 2 ^ e :=
    (zpow_le_zpow_right₀ (by norm_num) less).trans ((ratio_le_iff m e p).mp fits)
  -- The first guess that fits is taken.
  simp only [magnitude]
  split_ifs with first second third
  · exact below (of_decide_eq_true first) (by omega)
  · exact below (of_decide_eq_true second) (by omega)
  · exact below (of_decide_eq_true third) (by omega)
  · -- The last guess is not tried, and it is far enough below the number of bits.
    have bits : (2 : ℚ) ^ Nat.log2 m ≤ m := by exact_mod_cast Nat.log2_self_le some_
    calc (10 : ℚ) ^ _ ≤ 2 ^ ((Nat.log2 m : Int) + e) := ten_zpow_le_two_zpow low high (by omega)
      _ = 2 ^ Nat.log2 m * 2 ^ e := by rw [zpow_add₀ (by norm_num), zpow_natCast]
      _ ≤ m * 2 ^ e := mul_le_mul_of_nonneg_right bits (by positivity)

/-- Zero reads back as no other number. -/
theorem ne_zero_of_readsBack {m : Nat} {e p : Int} {c : Nat} (some_ : m ≠ 0)
    (reads : readsBack m e c p = true) :
    c ≠ 0 := by
  rintro rfl
  -- The interval around a number that is not zero begins above zero.
  have begins : 0 < (roundingInterval m e).low * (ratio 1 (e - 2) p).1 := by
    refine Nat.mul_pos ?_ (ratio_pos (e - 2) p Nat.one_ne_zero).1
    simp only [roundingInterval]
    split <;> omega
  simp only [readsBack, Nat.zero_mul] at reads
  split at reads
  · have both := (Bool.and_eq_true_iff.mp reads).1
    exact Nat.not_le.mpr begins (of_decide_eq_true both)
  · have both := (Bool.and_eq_true_iff.mp reads).1
    exact Nat.not_lt_zero _ (of_decide_eq_true both)

/-- A neighbour on the grid is not zero. -/
theorem onGrid_ne_zero {m : Nat} {e p : Int} {d : Decimal} (some_ : m ≠ 0)
    (found : onGrid m e p = some d) :
    d.digits ≠ 0 := by
  -- Whichever neighbour is tried first, the one that is given reads back.
  have either (x y : Nat) (found : (if readsBack m e x p then some (⟨x, p⟩ : Decimal)
      else if readsBack m e y p then some ⟨y, p⟩ else none) = some d) : d.digits ≠ 0 := by
    split at found
    · next reads =>
      cases found
      exact ne_zero_of_readsBack some_ reads
    · split at found
      · next reads =>
        cases found
        exact ne_zero_of_readsBack some_ reads
      · cases found
  exact either _ _ found

/-- Without its trailing zeros a number is not zero, unless it was. -/
theorem strip_ne_zero {fuel : Nat} {d : Decimal} (some_ : d.digits ≠ 0) :
    (strip fuel d).digits ≠ 0 := by
  -- Only a digit that is zero is taken away, and then others are left.
  fun_induction strip fuel d with
  | case1 d => exact some_
  | case2 fuel d trailing ih => exact ih (by simp only; omega)
  | case3 fuel d _ => exact some_

/-- The digits that are found are not those of zero, however many are tried. -/
theorem shortestFrom_ne_zero {m : Nat} {e top : Int} (some_ : m ≠ 0) {fuel count : Nat}
    (reach : (10 : ℚ) ^ (top - (fuel + count : Nat)) ≤ m * 2 ^ e) :
    (shortestFrom m e top fuel count).digits ≠ 0 := by
  induction fuel generalizing count with
  | zero =>
    -- As many digits as this are never needed, but they would not be zero.
    have fits := (ratio_le_iff m e (top - (0 + count : Nat))).mpr reach
    rw [Nat.zero_add] at fits
    exact (Nat.div_pos fits (ratio_pos e _ some_).2).ne'
  | succ fuel ih =>
    rw [shortestFrom]
    split
    · next found => exact strip_ne_zero (onGrid_ne_zero some_ found)
    · exact ih (by rwa [Nat.add_right_comm, Nat.add_assoc] at reach)

end Decimal

/-- The digits of a double that is not zero are not those of zero. -/
theorem Double.IsHeld.shortest_ne_zero {d : Double} (held : d.IsHeld) (some_ : d.mantissa ≠ 0) :
    d.shortest.digits ≠ 0 := by
  -- The digits are looked for among those that read back, and what is not zero does not read back
  -- from zero.
  have bits : Nat.log2 d.mantissa < 53 := (Nat.log2_lt some_).mpr held.mantissa
  obtain ⟨-, low, high⟩ := held
  exact Decimal.shortestFrom_ne_zero some_
    (Decimal.ten_zpow_magnitude_le some_ (by omega) (by omega))

/-- The digits of a number that is not zero do not start with one. -/
theorem decimalChars_head_ne {n : Nat} (some_ : n ≠ 0) : (decimalChars n).head? ≠ some '0' := by
  intro zero
  -- A number that begins with a zero has no other digit.
  have value : Nat.ofDigitChars 10 (decimalChars n) 0 = n := Nat.ofDigitChars_ten_toDigits
  rw [decimalChars_lead n zero] at value
  exact some_ value.symm

/-- Some of the digits of a row are digits, if there are any. -/
theorem IsDigits.of_subset {ds part : List Char} (digits : IsDigits ds) (within : part ⊆ ds)
    (nonempty : part ≠ []) : IsDigits part :=
  ⟨nonempty, fun c member => digits.2 c (within member)⟩

/-- The numeral of a double that is held is proper. -/
theorem Double.IsHeld.isProper {d : Double} (held : d.IsHeld) : d.numeral.IsProper := by
  have zero : IsDigits ['0'] := ⟨by simp, by simp⟩
  have zeros (n : Nat) : ∀ c ∈ List.replicate n '0', c.isDigit = true := by
    intro c member
    rw [List.eq_of_mem_replicate member]
    rfl
  unfold numeral
  cases isZero : d.isZero with
  | true => exact ⟨zero, fun _ => rfl, by simpa using zero, by simp⟩
  | false =>
    have some_ : d.mantissa ≠ 0 := by simpa [Double.isZero] using isZero
    have digits := isDigits_decimalChars d.shortest.digits
    have head := decimalChars_head_ne (held.shortest_ne_zero some_)
    have length := List.length_pos_iff.mpr digits.1
    simp only [Bool.false_eq_true, if_false]
    generalize decimalChars d.shortest.digits = ds at digits head length
    -- A part from the front starts as all of them do.
    have taken (k : Nat) (positive : 0 < k) :
        IsDigits (ds.take k) ∧ (ds.take k).head? ≠ some '0' := by
      refine ⟨digits.of_subset (List.take_subset k ds) (by simp [digits.1]; omega), ?_⟩
      rwa [List.head?_take, if_neg (by omega)]
    have dropped (k : Nat) (less : k < ds.length) : IsDigits (ds.drop k) :=
      digits.of_subset (List.drop_subset k ds) (by simpa using less)
    split_ifs with plain whole inside single
    · -- All digits stand before the point, and zeros behind them.
      refine ⟨⟨by simp [digits.1], ?_⟩, fun lead => ?_, by simpa using zero, by simp⟩
      · exact fun c member => (List.mem_append.mp member).elim (digits.2 c) (zeros _ c)
      · rw [List.head?_append_of_ne_nil _ digits.1] at lead
        exact absurd lead head
    · -- The point stands between two digits.
      obtain ⟨front, lead⟩ := taken (ds.length - 1 + d.shortest.exponent + 1).toNat (by omega)
      refine ⟨front, fun zero => absurd zero lead, ?_, by simp⟩
      rintro _ ⟨⟩
      exact dropped _ (by omega)
    · -- All digits stand behind the point, and zeros before them.
      refine ⟨zero, fun _ => rfl, ?_, by simp⟩
      rintro _ ⟨⟩
      exact ⟨by simp [digits.1], fun c member =>
        (List.mem_append.mp member).elim (zeros _ c) (digits.2 c)⟩
    · -- One digit stands before an exponent.
      obtain ⟨front, lead⟩ := taken 1 Nat.one_pos
      refine ⟨front, fun zero => absurd zero lead, by simp, ?_⟩
      rintro _ ⟨⟩
      exact isDigits_decimalChars _
    · -- The other digits stand between the point and the exponent.
      obtain ⟨front, lead⟩ := taken 1 Nat.one_pos
      refine ⟨front, fun zero => absurd zero lead, ?_, ?_⟩
      · rintro _ ⟨⟩
        exact dropped 1 (by omega)
      · rintro _ ⟨⟩
        exact isDigits_decimalChars _

/-- The numeral of a number that is held is proper. -/
theorem Number.IsHeld.isProper {n : Number} (held : n.IsHeld) : n.numeral.IsProper := by
  -- A number is an integer or a double, and the digits of each are proper.
  cases n with
  | integer n => exact Number.isProper_integer n
  | double d => exact Double.IsHeld.isProper held

end WatchRelay
