/-! # SHA-256

The SHA-256 digest of an octet string.

* **`Sha256.roundConstants`**, **`Sha256.initialState`** — the first 32 bits of the fractional
  parts of the cube roots of the first 64 primes and of the square roots of the first 8, computed
  here from their definition with integer roots.
* **`Sha256.pad`** — the message, a one bit, zeros, and the bit length as 64 big-endian bits, to a
  multiple of 64 octets.
* **`Sha256.compress`** — one 64-octet block folded into the eight-word state.
* **`Sha256.digest`** — the 32-octet digest. -/

namespace Backoffice

namespace Sha256

/-- Whether `n` is prime, by trial division. -/
def isPrime (n : Nat) : Bool :=
  n ≥ 2 && (List.range (n - 2)).all fun d => n % (d + 2) != 0

/-- The first `count` primes. -/
def primes (count : Nat) : List Nat :=
  ((List.range 320).filter isPrime).take count

/-- The largest `r` with `r ^ k ≤ n`, searched in `[lo, hi)` by halving. -/
def intRoot (k n : Nat) (lo hi : Nat) : Nat :=
  if _h : lo + 1 < hi then
    let mid := (lo + hi) / 2
    if Nat.pow mid k ≤ n then intRoot k n mid hi else intRoot k n lo mid
  else lo
termination_by hi - lo

/-- The first 32 bits of the fractional part of the `k`-th root of `p`. -/
def rootBits (k p : Nat) : UInt32 :=
  let r := intRoot k (p * Nat.pow 2 (32 * k)) 0 (Nat.pow 2 40)
  UInt32.ofNat (r % Nat.pow 2 32)

/-- The 64 round constants: cube roots of the first 64 primes. -/
def roundConstants : Array UInt32 := ((primes 64).map (rootBits 3)).toArray

/-- The eight working words. -/
structure State where
  a : UInt32
  b : UInt32
  c : UInt32
  d : UInt32
  e : UInt32
  f : UInt32
  g : UInt32
  h : UInt32

/-- The initial state: square roots of the first eight primes. -/
def initialState : State :=
  match (primes 8).map (rootBits 2) with
  | [a, b, c, d, e, f, g, h] => ⟨a, b, c, d, e, f, g, h⟩
  | _ => ⟨0, 0, 0, 0, 0, 0, 0, 0⟩

/-- Rotation right by `n` bits. -/
def rotr (x : UInt32) (n : UInt32) : UInt32 := (x >>> n) ||| (x <<< (32 - n))

/-- A big-endian word from four octets. -/
def word (a b c d : UInt8) : UInt32 :=
  (a.toUInt32 <<< 24) ||| (b.toUInt32 <<< 16) ||| (c.toUInt32 <<< 8) ||| d.toUInt32

/-- The octets of a word, most significant first. -/
def wordOctets (w : UInt32) : List UInt8 :=
  [(w >>> 24).toUInt8, (w >>> 16).toUInt8, (w >>> 8).toUInt8, w.toUInt8]

/-- Big-endian words of an octet string whose length is a multiple of four. -/
def words : List UInt8 → List UInt32
  | a :: b :: c :: d :: rest => word a b c d :: words rest
  | _ => []

/-- The 64-word message schedule of a block's 16 words. -/
def schedule (w16 : List UInt32) : Array UInt32 :=
  (List.range 48).foldl (fun (w : Array UInt32) i =>
    let t := i + 16
    let w15 := w[t - 15]!
    let w2 := w[t - 2]!
    let s0 := rotr w15 7 ^^^ rotr w15 18 ^^^ (w15 >>> 3)
    let s1 := rotr w2 17 ^^^ rotr w2 19 ^^^ (w2 >>> 10)
    w.push (w[t - 16]! + s0 + w[t - 7]! + s1)) w16.toArray

/-- One round with constant `k` and schedule word `w`. -/
def round (s : State) (k w : UInt32) : State :=
  let s1 := rotr s.e 6 ^^^ rotr s.e 11 ^^^ rotr s.e 25
  let ch := (s.e &&& s.f) ^^^ ((~~~ s.e) &&& s.g)
  let t1 := s.h + s1 + ch + k + w
  let s0 := rotr s.a 2 ^^^ rotr s.a 13 ^^^ rotr s.a 22
  let maj := (s.a &&& s.b) ^^^ (s.a &&& s.c) ^^^ (s.b &&& s.c)
  let t2 := s0 + maj
  ⟨t1 + t2, s.a, s.b, s.c, s.d + t1, s.e, s.f, s.g⟩

/-- **Fold one 64-octet block into the state.** -/
def compress (s : State) (block : List UInt8) : State :=
  let w := schedule (words block)
  let r := (List.range 64).foldl (fun st i => round st roundConstants[i]! w[i]!) s
  ⟨s.a + r.a, s.b + r.b, s.c + r.c, s.d + r.d, s.e + r.e, s.f + r.f, s.g + r.g, s.h + r.h⟩

/-- **Padding**: a one bit, zeros, and the message length in bits as 64 big-endian bits, so that
the length is a multiple of 64 octets. -/
def pad (msg : List UInt8) : List UInt8 :=
  let len := msg.length
  let zeros := (119 - len % 64) % 64
  let bits := len * 8
  msg ++ [0x80] ++ List.replicate zeros 0 ++
    (List.range 8).reverse.map fun i => UInt8.ofNat (bits / Nat.pow 2 (8 * i) % 256)

set_option linter.unusedVariables false in
/-- The 64-octet blocks of a padded message. -/
def blocks (msg : List UInt8) : List (List UInt8) :=
  if short : msg.length ≤ 64 then [msg]
  else msg.take 64 :: blocks (msg.drop 64)
termination_by msg.length
decreasing_by
  rw [List.length_drop]
  exact Nat.sub_lt (Nat.lt_of_le_of_lt (Nat.zero_le 64) (Nat.lt_of_not_le short)) (Nat.succ_pos 63)

/-- **The SHA-256 digest** of an octet string: 32 octets. -/
def digest (msg : List UInt8) : List UInt8 :=
  let s := (blocks (pad msg)).foldl compress initialState
  [s.a, s.b, s.c, s.d, s.e, s.f, s.g, s.h].flatMap wordOctets

example : (pad []).length = 64 := by decide

end Sha256

end Backoffice
