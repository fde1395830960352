import Mathlib.Algebra.Order.Ring.Nat
import WatchRelay.Session.Identity

/-! Ids of sessions are told apart by what was drawn for them, and sort by the time of their
making. -/

namespace WatchRelay

/-- A lower digit comes before a higher one. -/
theorem hexDigit_lt {m n : Nat} (lower : m < n) (small : n < 16) : hexDigit m < hexDigit n := by
  -- There are sixteen digits, so each pair of them can be looked at.
  have table : ∀ b : Fin 16, ∀ a : Fin b.val, hexDigit a < hexDigit b := by decide
  exact table ⟨n, small⟩ ⟨m, lower⟩

/-- A number has as many digits as it is given places. -/
@[simp] theorem length_hexDigits (places n : Nat) : (hexDigits places n).length = places := by
  -- Each place adds one digit at the end.
  induction places generalizing n with
  | zero => rfl
  | succ places ih => rw [hexDigits, List.length_append, ih, List.length_singleton]

/-- What comes before another text of its length does so whatever follows the two. -/
theorem append_lt_append {front other : List Char} (same : front.length = other.length)
    (before : front < other) (back rest : List Char) : front ++ back < other ++ rest := by
  -- The texts differ at some character, which stays the first at which they do.
  induction front generalizing other with
  | nil =>
    obtain rfl := List.length_eq_zero_iff.mp same.symm
    exact absurd before (List.lt_irrefl _)
  | cons c front ih =>
    cases other with
    | nil => cases same
    | cons d other =>
      rw [List.cons_append, List.cons_append, List.cons_lt_cons_iff]
      refine (List.cons_lt_cons_iff.mp before).imp_right fun ⟨equal, later⟩ => ⟨equal, ?_⟩
      exact ih (Nat.succ.inj same) later

/-- Of two numbers in as many places, the digits of the lower come first. -/
theorem hexDigits_lt {places m n : Nat} (lower : m < n) (fits : n < 16 ^ places) :
    hexDigits places m < hexDigits places n := by
  induction places generalizing m n with
  | zero => omega
  | succ places ih =>
    rw [Nat.pow_succ] at fits
    rw [hexDigits, hexDigits]
    -- The numbers differ before the last place, or only there.
    by_cases front : m / 16 < n / 16
    · exact append_lt_append (by simp) (ih front (by omega)) _ _
    · have same : m / 16 = n / 16 := by omega
      rw [same]
      refine List.append_left_lt (List.cons_lt_cons_iff.mpr (.inl ?_))
      exact hexDigit_lt (by omega) (by omega)

/-- Numbers that fit are told apart by their digits. -/
theorem hexDigits_inj {places m n : Nat} (fitsM : m < 16 ^ places) (fitsN : n < 16 ^ places)
    (same : hexDigits places m = hexDigits places n) : m = n := by
  -- Otherwise the digits of one of them would come before those of the other.
  rcases Nat.lt_trichotomy m n with lower | equal | higher
  · exact absurd (same ▸ hexDigits_lt lower fitsN) (List.lt_irrefl _)
  · exact equal
  · exact absurd (same ▸ hexDigits_lt higher fitsM) (List.lt_irrefl _)

namespace FreshId

/-- The groups of an id stand one after the other, with a dash between two. -/
theorem toList_text (id : FreshId) : id.text.toList =
    hexDigits 8 (id.millis.toNat / 0x10000) ++
      ('-' :: (hexDigits 4 (id.millis.toNat % 0x10000) ++
        ('-' :: '7' :: (hexDigits 3 id.high.toNat ++
          ('-' :: (hexDigits 4 (0x8000 + id.low.toNat / 0x1000000000000) ++
            ('-' :: hexDigits 12 (id.low.toNat % 0x1000000000000)))))))) := by
  -- There are five groups, so what is put between them can be written out.
  simp [text, groups, List.intercalate]

/-- Every id has 36 characters and says its version. -/
theorem text_shape (id : FreshId) : id.text.length = 36 ∧ version? id.text = some '7' := by
  -- Each group has its places, so the version stands behind two groups and two dashes.
  rw [version?, ← String.length_toList, toList_text]
  constructor
  · simp
  · rw [List.getElem?_append_right (by simp)]
    simp

/-- Ids are told apart by what they are made of. -/
theorem text_inj {a b : FreshId} (same : a.text = b.text) : a = b := by
  have chars := congrArg String.toList same
  rw [toList_text, toList_text] at chars
  -- Groups in the same place have the same digits, and each fits into its places.
  obtain ⟨time, chars⟩ := List.append_inj chars (by simp)
  obtain ⟨rest, chars⟩ := List.append_inj (List.cons.inj chars).2 (by simp)
  obtain ⟨high, chars⟩ := List.append_inj (List.cons.inj (List.cons.inj chars).2).2 (by simp)
  obtain ⟨front, chars⟩ := List.append_inj (List.cons.inj chars).2 (by simp)
  have back := (List.cons.inj chars).2
  have time := hexDigits_inj (by omega) (by omega) time
  have rest := hexDigits_inj (by omega) (by omega) rest
  have high := hexDigits_inj (by omega) (by omega) high
  have front := hexDigits_inj (by omega) (by omega) front
  have back := hexDigits_inj (by omega) (by omega) back
  obtain ⟨millisA, highA, lowA⟩ := a
  obtain ⟨millisB, highB, lowB⟩ := b
  congr 1 <;> apply BitVec.eq_of_toNat_eq <;> simp only at * <;> omega

/-- An id that was made earlier comes first, whatever was drawn for the two. -/
theorem text_lt_of_earlier {a b : FreshId} (earlier : a.millis < b.millis) : a.text < b.text := by
  have earlier := BitVec.lt_def.mp earlier
  show a.text.toList < b.text.toList
  rw [toList_text, toList_text]
  -- The times differ in the group of their high digits, or in that of the low ones behind it.
  by_cases front : a.millis.toNat / 0x10000 < b.millis.toNat / 0x10000
  · exact append_lt_append (by simp) (hexDigits_lt front (by omega)) _ _
  · have same : a.millis.toNat / 0x10000 = b.millis.toNat / 0x10000 := by omega
    rw [same]
    refine List.append_left_lt (List.cons_lt_cons_iff.mpr (.inr ⟨rfl, ?_⟩))
    exact append_lt_append (by simp) (hexDigits_lt (by omega) (by omega)) _ _

end FreshId

end WatchRelay
