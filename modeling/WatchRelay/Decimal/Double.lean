/-! Finite doubles as exact values, with rounding to the nearest and ties to the even neighbour. -/

namespace WatchRelay

/-- A finite double: the signed value `mantissa · 2^exponent`. -/
structure Double where
  negative : Bool
  mantissa : Nat
  exponent : Int
deriving DecidableEq, Repr, Inhabited

namespace Double

/-- The zero of the given sign. -/
def zero (negative : Bool) : Double := ⟨negative, 0, -1074⟩

/-- Whether the value is one of the two zeros. -/
def isZero (d : Double) : Bool := d.mantissa == 0

/-- A quotient rounded to the nearest integer, where a tie goes to the even neighbour. -/
def roundHalfEven (num den : Nat) : Nat :=
  let down := num / den
  let twice := 2 * (num % den)
  if twice < den then down
  else if den < twice then down + 1
  else if down % 2 = 0 then down else down + 1

/-- The quotient `num / den / 2^e` as a fraction. -/
def scaled (num den : Nat) (e : Int) : Nat × Nat :=
  if 0 ≤ e then (num, den * Nat.pow 2 e.toNat) else (num * Nat.pow 2 (-e).toNat, den)

/-- The double nearest to `num / den`, or none when it is too large. -/
def ofRatio (negative : Bool) (num den : Nat) : Option Double :=
  if num = 0 then some (zero negative)
  else
    -- The quotient lies strictly between 2^(k-1) and 2^(k+1), so 53 or 54 bits remain above `low`.
    let k : Int := (Nat.log2 num : Int) - Nat.log2 den
    let low := max (k - 53) (-1074)
    let (n, d) := scaled num den low
    let e := if Nat.pow 2 53 ≤ n / d then low + 1 else low
    let (n, d) := scaled num den e
    let m := roundHalfEven n d
    -- Rounding up may fill one bit too many.
    let (m, e) := if m = Nat.pow 2 53 then (Nat.pow 2 52, e + 1) else (m, e)
    if 971 < e then none else some ⟨negative, m, e⟩

/-- The double nearest to a natural number. -/
def ofNat? (n : Nat) : Option Double := ofRatio false n 1

/-- The product of two doubles, or none when it is too large. -/
def mul? (a b : Double) : Option Double :=
  let sign := a.negative != b.negative
  let m := a.mantissa * b.mantissa
  let e := a.exponent + b.exponent
  if 0 ≤ e then ofRatio sign (m * Nat.pow 2 e.toNat) 1
  else ofRatio sign m (Nat.pow 2 (-e).toNat)

/-- The quotient by a nonzero double, or none when it is too large. -/
def div? (a b : Double) : Option Double :=
  let sign := a.negative != b.negative
  let e := a.exponent - b.exponent
  if 0 ≤ e then ofRatio sign (a.mantissa * Nat.pow 2 e.toNat) b.mantissa
  else ofRatio sign a.mantissa (b.mantissa * Nat.pow 2 (-e).toNat)

/-- The same value with the given sign. -/
def withSign (negative : Bool) (d : Double) : Double := { d with negative }

end Double

end WatchRelay
