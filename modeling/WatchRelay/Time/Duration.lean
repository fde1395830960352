import WatchRelay.Decimal.Shortest

/-! Spans of time in nanoseconds, and their text in the largest unit that is not zero. -/

namespace WatchRelay

/-- A span of time. -/
structure Duration where
  nanos : Nat
deriving DecidableEq, Repr, Inhabited

namespace Duration

/-- So many milliseconds. -/
def ofMillis (ms : Nat) : Duration := ⟨ms * 1000000⟩

/-- So many seconds. -/
def ofSecs (s : Nat) : Duration := ⟨s * 1000000000⟩

/-- The decimal fraction of `part` out of `10^places`, without trailing zeros; nothing for zero. -/
def fraction (places part : Nat) : List Char :=
  let ds := decimalChars part
  let all := List.replicate (places - ds.length) '0' ++ ds
  let kept := (all.reverse.dropWhile (· == '0')).reverse
  if kept.isEmpty then [] else '.' :: kept

/-- The text in seconds, milliseconds, microseconds or nanoseconds. -/
def describe (d : Duration) : String :=
  let inUnit (places : Nat) (unit : String) : String :=
    let scale := Nat.pow 10 places
    String.ofList (decimalChars (d.nanos / scale) ++ fraction places (d.nanos % scale)) ++ unit
  if Nat.pow 10 9 ≤ d.nanos then inUnit 9 "s"
  else if Nat.pow 10 6 ≤ d.nanos then inUnit 6 "ms"
  else if Nat.pow 10 3 ≤ d.nanos then inUnit 3 "µs"
  else String.ofList (decimalChars d.nanos) ++ "ns"

end Duration

end WatchRelay
