import WatchRelay.Json.Value

/-! A number as it is spelled in a JSON text, and the number it stands for. -/

namespace WatchRelay

/-- The spelling of a number: the digits of its three parts and its signs. -/
structure Numeral where
  negative : Bool
  whole : List Char
  fraction : Option (List Char)
  /-- Whether the exponent is negative, and its digits. -/
  power : Option (Bool × List Char)
deriving DecidableEq, Repr

namespace Numeral

/-- The value of a decimal digit. -/
def digitValue (c : Char) : Nat := c.toNat - 48

/-- The value of a row of digits. -/
def digitsValue (ds : List Char) : Nat := ds.foldl (fun n c => 10 * n + digitValue c) 0

/-- Appends digits to a significand while it stays below `2^64`, and gives the digits left over. -/
def absorb : Nat → List Char → Nat × List Char
  | n, [] => (n, [])
  | n, c :: cs =>
    let next := n * 10 + digitValue c
    if next < Nat.pow 2 64 then absorb next cs else (n, c :: cs)

/-- The double that stands for a power of ten up to `10^308`. -/
def powerOfTen (k : Nat) : Double := (Double.ofNat? (Nat.pow 10 k)).getD (Double.zero false)

/-- A double times a power of ten, one rounded step for each 308 places; none when too large. -/
def scaleFrom (d : Double) (e : Int) : Option Double :=
  if e.natAbs ≤ 308 then
    if 0 ≤ e then d.mul? (powerOfTen e.natAbs) else d.div? (powerOfTen e.natAbs)
  else if d.isZero then some d
  else if 0 ≤ e then none
  else
    match d.div? (powerOfTen 308) with
    | none => none
    | some smaller => scaleFrom smaller (e + 308)
termination_by e.natAbs
decreasing_by omega

/-- The double of a significand and a decimal exponent. -/
def assemble (negative : Bool) (significand : Nat) (e : Int) : Option Number :=
  match Double.ofNat? significand with
  | none => none
  | some d => (scaleFrom d e).map fun d => .double (d.withSign negative)

/-- The integer of a significand, or a double where no 64-bit integer has the value. -/
def integral (negative : Bool) (significand : Nat) : Option Number :=
  if negative then
    if significand = 0 ∨ Nat.pow 2 63 < significand then assemble true significand 0
    else some (.integer (-significand))
  else some (.integer significand)

/-- The number a numeral stands for, or none when it is out of range. -/
def read (n : Numeral) : Option Number :=
  let (whole, excess) := absorb 0 n.whole
  match n.fraction, n.power with
  | none, none => if excess.isEmpty then integral n.negative whole
    else assemble n.negative whole excess.length
  | fraction, power =>
    let digits := fraction.getD []
    let (significand, rest) := absorb whole digits
    let start : Int := excess.length - (digits.length - rest.length : Nat)
    match power with
    | none => assemble n.negative significand start
    | some (down, ds) =>
      let size := digitsValue ds
      -- An exponent beyond 31 bits is not computed with: the number is zero or too large.
      if Nat.pow 2 31 ≤ size then
        if significand ≠ 0 ∧ !down then none else some (.double (Double.zero n.negative))
      else assemble n.negative significand (if down then start - size else start + size)

end Numeral

end WatchRelay
