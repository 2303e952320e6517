/-! # Blowfish

The Blowfish block cipher on pairs of 32-bit words, with the key schedule of its expensive
variant used by password hashing.

* **`piWords`** — the words of the fractional part of π in base 2^32, computed from Machin's
  formula π = 16·arctan(1/5) − 4·arctan(1/239) in fixed point. The first 18 are the
  initial subkeys, the next 1024 the four initial S-boxes.
* **`Blowfish.encrypt`** — sixteen Feistel rounds, each mixing in a subkey and the S-box
  function, then the last two subkeys with the halves swapped.
* **`Blowfish.expandKey`**, **`Blowfish.expandSaltedKey`** — the subkeys mixed with the key
  (read cyclically, four octets to a word, high first), then every subkey and S-box entry
  replaced in order by successive encryptions, chained, of a block that starts at zero; the
  salted schedule mixes the next two salt words into the block before each encryption. -/

namespace Backoffice

namespace Blowfish

/-- The number of words taken from π: 18 subkeys and four S-boxes of 256. -/
def wordCount : Nat := 18 + 4 * 256

/-- Guard bits below the words that are kept. -/
def guardBits : Nat := 64

/-- **arctan(1/x) in fixed point**, `scale` standing for one: the alternating series of
`scale / x^(2k+1) / (2k+1)`, each term truncated. -/
def arctanInverse (x scale : Nat) : Int :=
  go (Nat.log2 scale + 1) (scale / x) 0 0
where
  /-- Add terms from the `k`-th on, `term` being `scale / x^(2k+1)`. -/
  go : Nat → Nat → Nat → Int → Int
    | 0, _, _, acc => acc
    | fuel + 1, term, k, acc =>
      if term = 0 then acc
      else
        let t : Int := (term / (2 * k + 1) : Nat)
        go fuel (term / (x * x)) (k + 1) (if k % 2 = 0 then acc + t else acc - t)

/-- **π in fixed point** with `bits` fractional bits and the guard bits. -/
def piScaled (bits : Nat) : Nat :=
  let scale := Nat.pow 2 (bits + guardBits)
  (16 * arctanInverse 5 scale - 4 * arctanInverse 239 scale).toNat

/-- **The first words of the fractional part of π**, most significant first. -/
def piWords : Array UInt32 :=
  let bits := 32 * wordCount
  let fraction := piScaled bits / Nat.pow 2 guardBits % Nat.pow 2 bits
  (List.range wordCount).toArray.map fun i =>
    UInt32.ofNat (fraction / Nat.pow 2 (32 * (wordCount - 1 - i)) % Nat.pow 2 32)

end Blowfish

/-- **A Blowfish key state**: 18 subkeys and four S-boxes of 256 words, laid end to end. -/
structure Blowfish where
  subkeys : Array UInt32
  boxes : Array UInt32

namespace Blowfish

/-- The state before any key: the words of π. -/
def initial : Blowfish := ⟨piWords.extract 0 18, piWords.extract 18 wordCount⟩

/-- The subkey at `i`. -/
def subkey (b : Blowfish) (i : Nat) : UInt32 := b.subkeys.getD i 0

/-- **The round function**: four S-box entries chosen by the octets of `x`, combined by
addition, exclusive or and addition. -/
def feistel (b : Blowfish) (x : UInt32) : UInt32 :=
  let a := b.boxes.getD (x >>> 24).toNat 0
  let c := b.boxes.getD (256 + ((x >>> 16) &&& 0xFF).toNat) 0
  let d := b.boxes.getD (512 + ((x >>> 8) &&& 0xFF).toNat) 0
  let e := b.boxes.getD (768 + (x &&& 0xFF).toNat) 0
  ((a + c) ^^^ d) + e

/-- **Encrypt one block** of two words. -/
def encrypt (b : Blowfish) (block : UInt32 × UInt32) : UInt32 × UInt32 :=
  let (l, r) := (List.range 8).foldl (fun (lr : UInt32 × UInt32) i =>
    let l := lr.1 ^^^ b.subkey (2 * i)
    let r := lr.2 ^^^ b.feistel l ^^^ b.subkey (2 * i + 1)
    (l ^^^ b.feistel r, r)) block
  (r ^^^ b.subkey 17, l ^^^ b.subkey 16)

/-- The `i`-th word of octets read cyclically, four to a word, the first octet highest. -/
def cyclicWord (octets : Array UInt8) (i : Nat) : UInt32 :=
  let n := octets.size
  let at_ := fun (j : Nat) => (octets.getD ((4 * i + j) % n) 0).toUInt32
  if n = 0 then 0 else (at_ 0 <<< 24) ||| (at_ 1 <<< 16) ||| (at_ 2 <<< 8) ||| at_ 3

/-- The subkeys mixed with a key by exclusive or. -/
def mixKey (b : Blowfish) (key : Array UInt8) : Blowfish :=
  { b with subkeys := b.subkeys.mapIdx fun i w => w ^^^ cyclicWord key i }

/-- Store the block of step `j`: steps 0 to 8 fill the subkeys, the rest the S-boxes. -/
def store (b : Blowfish) (j : Nat) (block : UInt32 × UInt32) : Blowfish :=
  if j < 9 then
    { b with subkeys := (b.subkeys.setIfInBounds (2 * j) block.1).setIfInBounds (2 * j + 1) block.2 }
  else
    let k := 2 * (j - 9)
    { b with boxes := (b.boxes.setIfInBounds k block.1).setIfInBounds (k + 1) block.2 }

/-- **Replace every subkey and S-box entry** by chained encryptions, the block mixed with
`tweak j` before step `j`. -/
def refill (tweak : Nat → UInt32 × UInt32) (b : Blowfish) : Blowfish :=
  go (wordCount / 2) 0 (0, 0) b
where
  /-- Steps from `j` on, `steps` of them left, `block` the last output. -/
  go : Nat → Nat → UInt32 × UInt32 → Blowfish → Blowfish
    | 0, _, _, b => b
    | steps + 1, j, block, b =>
      let (x, y) := tweak j
      let out := b.encrypt (block.1 ^^^ x, block.2 ^^^ y)
      go steps (j + 1) out (b.store j out)

/-- **The key schedule**: mix in the key, then refill. -/
def expandKey (b : Blowfish) (key : Array UInt8) : Blowfish :=
  refill (fun _ => (0, 0)) (b.mixKey key)

/-- **The salted key schedule**: mix in the key, then refill with salt words mixed in. -/
def expandSaltedKey (b : Blowfish) (salt key : Array UInt8) : Blowfish :=
  refill (fun j => (cyclicWord salt (2 * j), cyclicWord salt (2 * j + 1))) (b.mixKey key)

end Blowfish

end Backoffice
