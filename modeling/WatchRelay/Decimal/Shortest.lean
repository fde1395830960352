import WatchRelay.Decimal.Double

/-! The fewest decimal digits that read back as a given double, and how they are written. -/

namespace WatchRelay

/-- A positive decimal: `digits · 10^exponent`. -/
structure Decimal where
  digits : Nat
  exponent : Int
deriving DecidableEq, Repr, Inhabited

namespace Decimal

/-- Drops trailing zeros of the digits, at most as many as the fuel. -/
def strip : Nat → Decimal → Decimal
  | 0, d => d
  | fuel + 1, d =>
    if d.digits ≠ 0 ∧ d.digits % 10 =
      0 then strip fuel ⟨d.digits / 10, d.exponent + 1⟩ else d

/-- The integers `num` and `den` with `num / den = m · 2^e / 10^p`. -/
def ratio (m : Nat) (e p : Int) : Nat × Nat :=
  let num := m * Nat.pow 2 e.toNat * Nat.pow 10 (-p).toNat
  let den := Nat.pow 2 (-e).toNat * Nat.pow 10 p.toNat
  (num, den)

/-- The largest `p` with `10^p ≤ m · 2^e`, found from a guess that is at most two too high. -/
def magnitude (m : Nat) (e : Int) : Int :=
  let bits : Int := (Nat.log2 m : Int) + e
  -- A bit is slightly more than three tenths of a decimal digit.
  let guess : Int := (bits * 30103).fdiv 100000 + 2
  let fits (p : Int) : Bool := let (num, den) := ratio m e p; den ≤ num
  if fits guess then guess
  else if fits (guess - 1) then guess - 1
  else if fits (guess - 2) then guess - 2
  else guess - 3

/-- The interval of reals that round to a double, in units of a quarter of its last place. -/
structure Interval where
  low : Nat
  high : Nat
  closed : Bool

/-- The reals that round to `m · 2^e`; below a power of two the next double is only half as far. -/
def roundingInterval (m : Nat) (e : Int) : Interval :=
  let lower := if m = Nat.pow 2 52 ∧ -1074 < e then 1 else 2
  ⟨4 * m - lower, 4 * m + 2, m % 2 = 0⟩

/-- Whether `c · 10^p` rounds to `m · 2^e`. -/
def readsBack (m : Nat) (e : Int) (c : Nat) (p : Int) : Bool :=
  let i := roundingInterval m e
  -- Compare `c · 10^p` with the ends, which are multiples of `2^(e-2)`.
  let (num, den) := ratio 1 (e - 2) p
  let below := i.low * num
  let above := i.high * num
  let point := c * den
  if i.closed then below ≤ point && point ≤ above else below < point && point < above

/-- The neighbour of `m · 2^e` on the grid of multiples of `10^p` that reads back, the nearer of
two. -/
def onGrid (m : Nat) (e p : Int) : Option Decimal :=
  let (num, den) := ratio m e p
  let down := num / den
  let twice := 2 * (num % den)
  let downFirst := twice < den || (twice == den && down % 2 == 0)
  let first := if downFirst then down else down + 1
  let second := if downFirst then down + 1 else down
  if readsBack m e first p then some ⟨first, p⟩
  else if readsBack m e second p then some ⟨second, p⟩
  else none

/-- The shortest decimal that rounds to `m · 2^e`, tried with `count` digits and more. -/
def shortestFrom (m : Nat) (e top : Int) : Nat → Nat → Decimal
  | 0, count => ⟨(ratio m e (top - count)).1 / (ratio m e (top - count)).2, top - count⟩
  | fuel + 1, count =>
    match onGrid m e (top - count) with
    | some d => strip 20 d
    | none => shortestFrom m e top fuel (count + 1)

end Decimal

/-- The shortest decimal that reads back as a nonzero double. -/
def Double.shortest (d : Double) : Decimal :=
  Decimal.shortestFrom d.mantissa d.exponent (Decimal.magnitude d.mantissa d.exponent) 18 0

/-- The decimal digits of a natural number. -/
def decimalChars (n : Nat) : List Char := Nat.toDigits 10 n

/-- The text of a double: plain from `10^-5` up to `10^16`, with a marked exponent elsewhere. -/
def Double.chars (d : Double) : List Char :=
  let sign := if d.negative then ['-'] else []
  if d.isZero then sign ++ ['0', '.', '0']
  else
    let s := d.shortest
    let ds := decimalChars s.digits
    let count : Int := ds.length
    -- The exponent of the first digit.
    let top := count - 1 + s.exponent
    let body :=
      if -5 ≤ top ∧ top ≤ 15 then
        if 0 ≤ s.exponent then ds ++ List.replicate s.exponent.toNat '0' ++ ['.', '0']
        else if 0 ≤ top then ds.take (top + 1).toNat ++ '.' :: ds.drop (top + 1).toNat
        else '0' :: '.' :: (List.replicate (-top - 1).toNat '0' ++ ds)
      else
        let mark := if top < 0 then '-' else '+'
        let fraction := if ds.length ≤ 1 then [] else '.' :: ds.drop 1
        ds.take 1 ++ fraction ++ 'e' :: mark :: decimalChars top.natAbs
    sign ++ body

end WatchRelay
