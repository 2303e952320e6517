/-! # Punycode

The Bootstring encoding with the parameters of Punycode, which writes any sequence
of code points with the ASCII letters, digits and hyphen.

* **`encode`** — the ASCII code points in order, a hyphen if there were any, then the others
  as variable-length base-36 deltas, in order of code point and then of position.
* **`decode`** — the inverse; it refuses a non-ASCII code point before the last hyphen, a
  symbol that is not a base-36 digit, a text that ends inside a number, and a result outside
  the code points. -/

namespace Backoffice

namespace Idna

namespace Punycode

/-- The number of digit values. -/
def base : Nat := 36

/-- The least threshold. -/
def tMin : Nat := 1

/-- The greatest threshold. -/
def tMax : Nat := 26

/-- The bias after the first delta is divided by `damp`. -/
def damp : Nat := 700

/-- The first bias. -/
def initialBias : Nat := 72

/-- The first code point beyond ASCII. -/
def initialN : Nat := 128

/-- The threshold of the digit at `k` under `bias`. -/
def threshold (k bias : Nat) : Nat :=
  if k ≤ bias then tMin else if k ≥ bias + tMax then tMax else k - bias

/-- Divide `delta` by 35 until it is at most 455, counting steps of 36. -/
def adaptLoop : Nat → Nat → Nat → Nat
  | 0, delta, k => k + (base - tMin + 1) * delta / (delta + 38)
  | fuel + 1, delta, k =>
    if delta > (base - tMin) * tMax / 2 then adaptLoop fuel (delta / (base - tMin)) (k + base)
    else k + (base - tMin + 1) * delta / (delta + 38)

/-- **The bias after a delta**, for `count` code points written so far. -/
def adapt (delta count : Nat) (first : Bool) : Nat :=
  let delta := if first then delta / damp else delta / 2
  let delta := delta + delta / count
  adaptLoop 64 delta 0

/-- The symbol of a digit value: `a` to `z`, then `0` to `9`. -/
def digitChar (d : Nat) : Char :=
  if d < 26 then Char.ofNat (0x61 + d) else Char.ofNat (0x30 + d - 26)

/-- The value of a symbol as a digit, letters in either case. -/
def digitValue? (c : Char) : Option Nat :=
  let n := c.toNat
  if 0x61 ≤ n ∧ n ≤ 0x7A then some (n - 0x61)
  else if 0x41 ≤ n ∧ n ≤ 0x5A then some (n - 0x41)
  else if 0x30 ≤ n ∧ n ≤ 0x39 then some (n - 0x30 + 26)
  else none

/-- **The digits of a number** `q`, the first at position `k` under `bias`. -/
def numberDigits (bias : Nat) (k q : Nat) : List Char :=
  let t := threshold k bias
  if h : q < t then [digitChar q]
  else
    have : (q - t) / (base - t) < q := by
      have ht : 1 ≤ threshold k bias := by
        unfold threshold tMin tMax; split <;> (try split) <;> omega
      have hle : (q - t) / (base - t) ≤ q - t := Nat.div_le_self _ _
      omega
    digitChar (t + (q - t) % (base - t)) :: numberDigits bias (k + base) ((q - t) / (base - t))
termination_by q

/-- Encoding state: the next code point, the delta, the bias, the count handled, the output. -/
structure EncodeState where
  n : Nat
  delta : Nat
  bias : Nat
  handled : Nat
  out : List Char

/-- Write every occurrence of the code point `n`, walking the input in order. -/
def encodeRound (input : List Nat) (basicCount : Nat) (s : EncodeState) : EncodeState :=
  let s := input.foldl (fun (s : EncodeState) c =>
    if c < s.n then { s with delta := s.delta + 1 }
    else if c = s.n then
      let ds := numberDigits s.bias base s.delta
      { s with out := s.out ++ ds, bias := adapt s.delta (s.handled + 1) (s.handled == basicCount),
               delta := 0, handled := s.handled + 1 }
    else s) s
  { s with delta := s.delta + 1, n := s.n + 1 }

/-- The rounds of encoding, at most `fuel` of them. -/
def encodeRounds (input : List Nat) (basicCount : Nat) : Nat → EncodeState → EncodeState
  | 0, s => s
  | fuel + 1, s =>
    if s.handled < input.length then
      match (input.filter (· ≥ s.n)).min? with
      | none => s
      | some m =>
        let s := { s with delta := s.delta + (m - s.n) * (s.handled + 1), n := m }
        encodeRounds input basicCount fuel (encodeRound input basicCount s)
    else s

/-- **Encode code points.** -/
def encode (input : List Nat) : String :=
  let basic := input.filter (· < 0x80)
  let start : List Char := (basic.map Char.ofNat) ++ (if basic.isEmpty then [] else ['-'])
  let s := encodeRounds input basic.length (input.length + 1)
    ⟨initialN, 0, initialBias, basic.length, start⟩
  String.ofList s.out

/-- Read one number at `k` under `bias`, adding to `i` with weight `w`: the new `i` and the
rest of the text. -/
def readNumber (bias : Nat) : Nat → Nat → Nat → Nat → List Char → Option (Nat × List Char)
  | 0, _, _, _, _ => none
  | fuel + 1, k, i, w, cs =>
    match cs with
    | [] => none
    | c :: rest => do
      let d ← digitValue? c
      let i := i + d * w
      if i ≥ Nat.pow 2 32 then none
      else
        let t := threshold k bias
        if d < t then some (i, rest)
        else readNumber bias fuel (k + base) i (w * (base - t)) rest

/-- Insert the code points of the numbers in `cs` into `out`. -/
def decodeLoop : Nat → Nat → Nat → Nat → List Nat → List Char → Option (List Nat)
  | 0, _, _, _, _, _ => none
  | fuel + 1, n, i, bias, out, cs =>
    if cs.isEmpty then some out
    else do
      let (i', rest) ← readNumber bias 64 base i 1 cs
      let len := out.length + 1
      let bias := adapt (i' - i) len (i == 0)
      let n := n + i' / len
      let pos := i' % len
      if n > 0x10FFFF ∨ (0xD800 ≤ n ∧ n ≤ 0xDFFF) then none
      else decodeLoop fuel n (pos + 1) bias (out.insertIdx pos n) rest

/-- **Decode** the text after `xn--`. -/
def decode (text : String) : Option (List Nat) :=
  let cs := text.toList
  let lastHyphen := (cs.zipIdx.filter fun (c, _) => c == '-').getLast?.map Prod.snd
  let (basic, rest) := match lastHyphen with
    | some p => (cs.take p, cs.drop (p + 1))
    | none => ([], cs)
  if basic.any (fun c => c.toNat ≥ 0x80) then none
  else decodeLoop (rest.length + 1) initialN 0 initialBias (basic.map Char.toNat) rest

end Punycode

end Idna

end Backoffice
