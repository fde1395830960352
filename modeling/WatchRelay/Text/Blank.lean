/-! White space as Unicode defines it, and text without it at both ends. -/

namespace WatchRelay

/-- The characters with the Unicode property White_Space. -/
def isBlank (c : Char) : Bool :=
  let p := c.toNat
  (9 ≤ p && p ≤ 13) || p == 0x20 || p == 0x85 || p == 0xA0 || p == 0x1680 ||
    (0x2000 ≤ p && p ≤ 0x200A) || p == 0x2028 || p == 0x2029 || p == 0x202F || p == 0x205F ||
    p == 0x3000

/-- The text without white space at its ends. -/
def trimBlank (text : String) : String :=
  let front := text.toList.dropWhile isBlank
  String.ofList (front.reverse.dropWhile isBlank).reverse

end WatchRelay
