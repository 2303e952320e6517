import Backoffice.Decimal.Binary64

/-! # Shortest decimal text of a binary64 value

* **`Shortest.digits`** — for a finite positive value, the decimal `c * 10^k` with the fewest
  significant digits that reads back to the same value, the nearest such decimal when several
  have that many digits (a tie goes to the even `c`). The rounding interval of `m * 2^q` holds
  every real that reads back to it: half a unit of the last place either side, a quarter below
  when `m` is the least significand of its binade, ends included exactly when `m` is even. For
  `n = 1, 2, …, 17` the two neighbours of the value on the grid of `n`-digit decimals are
  tested; the first grid with a neighbour inside wins, since a grid with any point inside the
  interval has one of the two neighbours inside.
* **`Shortest.render`** — the text of a value in the style of JSON writers: positional notation
  with at least one fractional digit when the decimal point falls within the first sixteen
  digits, otherwise one leading digit and a signed exponent (`1e+300`, `1.5e-7`). -/

namespace Backoffice

namespace Shortest

/-- `⌊(e * log10 2)⌋` for the exponents of binary64, from the integer approximation
`78913 / 2^18` of `log10 2`. -/
def log10Pow2 (e : Int) : Int := (e * 78913) / 262144

/-- The scaled rounding interval of `m * 2^q`: the value, its lower and upper ends, and the unit
`10^k`, all multiplied by one common factor so that they are natural numbers. -/
structure Scaled where
  value : Nat
  low : Nat
  high : Nat
  unit : Nat

/-- The interval of `m * 2^q` scaled for the decimal grid `10^k`. Every quantity is counted in
units of `2^(q-2)` first, so the half-unit and quarter-unit ends are whole. -/
def scaled (m : Nat) (q : Int) (k : Int) : Scaled :=
  let up2 := (q - 2).toNat
  let down2 := (2 - q).toNat
  let up10 := k.toNat
  let down10 := (-k).toNat
  let s := Nat.pow 2 up2 * Nat.pow 10 down10
  let lowerGap := if m = Nat.pow 2 52 ∧ q > -1074 then 1 else 2
  { value := 4 * m * s
    low := (4 * m - lowerGap) * s
    high := (4 * m + 2) * s
    unit := Nat.pow 10 up10 * Nat.pow 2 down2 }

/-- Whether `x` lies in the rounding interval; the ends count exactly when `m` is even. -/
def Scaled.contains (iv : Scaled) (closed : Bool) (x : Nat) : Bool :=
  if closed then iv.low ≤ x && x ≤ iv.high else iv.low < x && x < iv.high

/-- The decimal exponent of the value: the `e` with `10^e ≤ m * 2^q < 10^(e+1)`. -/
def decimalExponent (m : Nat) (q : Int) : Int :=
  let est := log10Pow2 (q + Binary64.bitLength m - 1)
  let iv := scaled m q (est + 1)
  if iv.unit ≤ iv.value then est + 1 else est

/-- The digits on the grid of `10^k`: one of the value's two neighbours that lies in the
interval, the nearer one if both do, the even one on a tie. -/
def onGrid (m : Nat) (q : Int) (k : Int) : Option Nat :=
  let iv := scaled m q k
  let closed := m % 2 == 0
  let below := iv.value / iv.unit
  let above := below + 1
  if below * iv.unit = iv.value then some below
  else
    let inBelow := iv.contains closed (below * iv.unit)
    let inAbove := iv.contains closed (above * iv.unit)
    match inBelow, inAbove with
    | true, true =>
      let dBelow := iv.value - below * iv.unit
      let dAbove := above * iv.unit - iv.value
      if dBelow < dAbove then some below
      else if dAbove < dBelow then some above
      else if below % 2 == 0 then some below else some above
    | true, false => some below
    | false, true => some above
    | false, false => none

/-- Drop trailing zero digits, raising the exponent for each. -/
def trimZeros (c : Nat) (k : Int) : Nat × Int :=
  if h : c ≠ 0 ∧ c % 10 = 0 then
    have : c / 10 < c := Nat.div_lt_self (Nat.pos_of_ne_zero h.1) (by decide)
    trimZeros (c / 10) (k + 1)
  else (c, k)
termination_by c

/-- Try the grids of `n`, `n + 1`, … up to 17 significant digits. -/
def search (m : Nat) (q : Int) (e10 : Int) (n : Nat) (fuel : Nat) : Nat × Int :=
  let k := e10 - n + 1
  match onGrid m q k, fuel with
  | some c, _ => trimZeros c k
  | none, 0 => trimZeros ((scaled m q k).value / (scaled m q k).unit) k
  | none, fuel + 1 => search m q e10 (n + 1) fuel

/-- **The shortest decimal `(c, k)` with `c * 10^k` reading back to `m * 2^q`** (`m > 0`);
`c` has no trailing zero. -/
def digits (m : Nat) (q : Int) : Nat × Int :=
  search m q (decimalExponent m q) 1 16

/-- Decimal digits of a natural number. -/
def natText (n : Nat) : String := toString n

/-- **JSON-writer text of a binary64 pattern.** Zero is `0.0` (with its sign); a value whose
decimal point falls within the first sixteen digits is positional with at least one fractional
digit; otherwise one digit, an optional fraction and an exponent `e` with its sign, `+` or
`-`. Infinite and NaN patterns do not arise from reading JSON and are written `null`. -/
def render (bits : UInt64) : String :=
  let sign := if Binary64.signBit bits then "-" else ""
  let e := Binary64.exponentField bits
  let f := Binary64.fractionField bits
  if e = 2047 then "null"
  else if e = 0 ∧ f = 0 then sign ++ "0.0"
  else
    let (m, q) := Binary64.decode bits
    let (c, k) := digits m q
    let ds := natText c
    let len : Int := ds.length
    let kk := len + k
    let body :=
      if 0 ≤ k ∧ kk ≤ 16 then
        ds ++ String.ofList (List.replicate k.toNat '0') ++ ".0"
      else if 0 < kk ∧ kk ≤ 16 then
        let cut := kk.toNat
        String.ofList (ds.toList.take cut) ++ "." ++ String.ofList (ds.toList.drop cut)
      else if -5 < kk ∧ kk ≤ 0 then
        "0." ++ String.ofList (List.replicate (-kk).toNat '0') ++ ds
      else
        let expText := (if kk - 1 < 0 then "" else "+") ++ toString (kk - 1)
        match ds.toList with
        | [d] => String.singleton d ++ "e" ++ expText
        | d :: rest => String.singleton d ++ "." ++ String.ofList rest ++ "e" ++ expText
        | [] => "0e0"
    sign ++ body

end Shortest

end Backoffice
