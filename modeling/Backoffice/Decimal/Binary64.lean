/-! # Binary64 bit patterns

IEEE 754 binary64 values seen through their 64-bit patterns.

* **`Binary64.ofNat`** — the pattern of the binary64 value nearest a natural number, a tie going
  to the even significand; numbers too large for a finite value give infinity.
* **`Binary64.decode`** — a finite positive pattern as `m * 2^q` with `m` a natural number.
* **`Binary64.pow10`** — the nearest binary64 to `10^k`, the scale factors that decimal reading
  multiplies and divides by. -/

namespace Backoffice

namespace Binary64

/-- Number of binary digits of `n` (zero has none). -/
def bitLength (n : Nat) : Nat := if n = 0 then 0 else Nat.log2 n + 1

/-- The pattern of positive infinity. -/
def infinityBits : UInt64 := 0x7FF0000000000000

/-- The pattern with biased exponent `e` and 52-bit fraction `f`, sign clear. -/
def assemble (e f : Nat) : UInt64 := (UInt64.ofNat e <<< 52) ||| UInt64.ofNat f

/-- **The binary64 value nearest `n`**, as a pattern. Rounding keeps 53 significant bits and
sends a tie to the even significand; a result beyond the largest finite value is infinity. -/
def ofNat (n : Nat) : UInt64 :=
  if n = 0 then 0
  else
    let len := bitLength n
    if len ≤ 53 then
      -- exact: shift the significand up to 53 bits
      let m := n <<< (53 - len)
      assemble (1075 - (53 - len)) (m - Nat.pow 2 52)
    else
      let s := len - 53
      let m := n >>> s
      let rem := n % Nat.pow 2 s
      let half := Nat.pow 2 (s - 1)
      let up := rem > half || (rem == half && m % 2 == 1)
      let m' := if up then m + 1 else m
      let (m'', s') := if m' = Nat.pow 2 53 then (Nat.pow 2 52, s + 1) else (m', s)
      if s' + 1075 ≥ 2047 then infinityBits else assemble (s' + 1075) (m'' - Nat.pow 2 52)

/-- The biased exponent field of a pattern. -/
def exponentField (b : UInt64) : Nat := ((b >>> 52) &&& 0x7FF).toNat

/-- The fraction field of a pattern. -/
def fractionField (b : UInt64) : Nat := (b &&& 0xFFFFFFFFFFFFF).toNat

/-- Whether the sign bit is set. -/
def signBit (b : UInt64) : Bool := (b >>> 63) == 1

/-- **A finite pattern's magnitude as `m * 2^q`.** Subnormals have exponent `-1074` and no
hidden bit. -/
def decode (b : UInt64) : Nat × Int :=
  let e := exponentField b
  let f := fractionField b
  if e = 0 then (f, -1074) else (f + Nat.pow 2 52, (e : Int) - 1075)

/-- The nearest binary64 value to `10^k`. -/
def pow10 (k : Nat) : Float := Float.ofBits (ofNat (Nat.pow 10 k))

example : ofNat 1 = 0x3FF0000000000000 := by decide
example : ofNat 3 = 0x4008000000000000 := by decide

end Binary64

end Backoffice
