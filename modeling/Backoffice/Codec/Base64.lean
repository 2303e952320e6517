/-! # Base64 without padding

Base64 over a 64-symbol alphabet, written without `=` padding and read back only in its
canonical form.

* **`Base64.encode`** — three octets to four symbols; a last group of one or two octets gives two
  or three symbols.
* **`Base64.decode`** — the inverse, refusing with the first fault found:
  - a text whose length leaves a remainder of one has its last octet checked first;
  - the symbols before the last group are checked in order;
  - in the last group, `=` in its first two places, `=` followed by a symbol, a symbol outside
    the alphabet, a lone symbol, any padding at all, and unused low bits left set in the last
    symbol are each refused.
* **`Base64.Alphabet.url`**, **`Base64.Alphabet.crypt`** — the URL-safe alphabet (letters,
  digits, `-` and `_`) and the alphabet of password hashes, which starts `./`. -/

namespace Backoffice

namespace Base64

/-- **An alphabet**: the 64 symbols in order of their values. -/
structure Alphabet where
  symbols : List Char

/-- The URL- and file-name-safe alphabet: `A–Z`, `a–z`, `0–9`, `-`, `_`. -/
def Alphabet.url : Alphabet :=
  ⟨"ABCDEFGHIJKLMNOPQRSTUVWXYZabcdefghijklmnopqrstuvwxyz0123456789-_".toList⟩

/-- The alphabet of password hashes: `.`, `/`, `A–Z`, `a–z`, `0–9`. -/
def Alphabet.crypt : Alphabet :=
  ⟨"./ABCDEFGHIJKLMNOPQRSTUVWXYZabcdefghijklmnopqrstuvwxyz0123456789".toList⟩

/-- The symbol of a 6-bit value. -/
def Alphabet.symbol (a : Alphabet) (v : Nat) : Char := a.symbols.getD v 'A'

/-- The value of an octet as a symbol, if it is one. -/
def Alphabet.value? (a : Alphabet) (b : UInt8) : Option Nat :=
  a.symbols.findIdx? (fun c => c.toNat == b.toNat)

/-- **Encode** octets, without padding. -/
def encode (a : Alphabet) : List UInt8 → String
  | [] => ""
  | [x] =>
    let n := x.toNat
    String.ofList [a.symbol (n / 4), a.symbol (n % 4 * 16)]
  | [x, y] =>
    let n := x.toNat * 256 + y.toNat
    String.ofList [a.symbol (n / 1024), a.symbol (n / 16 % 64), a.symbol (n % 16 * 4)]
  | x :: y :: z :: rest =>
    let n := (x.toNat * 256 + y.toNat) * 256 + z.toNat
    String.ofList [a.symbol (n / 262144), a.symbol (n / 4096 % 64), a.symbol (n / 64 % 64),
      a.symbol (n % 64)] ++ encode a rest

/-- **Why a text is not canonical unpadded Base64.** Offsets count octets of the text. -/
inductive DecodeError where
  | invalidSymbol (offset : Nat) (octet : UInt8)
  | invalidLength (length : Nat)
  | invalidLastSymbol (offset : Nat) (octet : UInt8)
  | invalidPadding
  deriving DecidableEq, Repr

/-- The wording of a decoding fault. -/
def DecodeError.message : DecodeError → String
  | .invalidSymbol i b => "Invalid symbol " ++ toString b.toNat ++ ", offset " ++ toString i ++ "."
  | .invalidLength n => "Invalid input length: " ++ toString n
  | .invalidLastSymbol i b =>
    "Invalid last symbol " ++ toString b.toNat ++ ", offset " ++ toString i ++ "."
  | .invalidPadding => "Invalid padding"

/-- The padding octet `=`. -/
def padOctet : UInt8 := 0x3D

/-- Values of the symbols before the last group, in groups of four, the first symbol outside
the alphabet refused. -/
def decodeBody (a : Alphabet) (start : Nat) : List UInt8 → Except DecodeError (List UInt8)
  | [] => .ok []
  | b :: rest =>
    match a.value? b with
    | none => .error (.invalidSymbol start b)
    | some v =>
      match decodeBody a (start + 1) rest with
      | .error e => .error e
      | .ok vs => .ok (UInt8.ofNat v :: vs)

/-- Octets of complete groups of four 6-bit values. -/
def packGroups : List UInt8 → List UInt8
  | a :: b :: c :: d :: rest =>
    let n := ((a.toNat * 64 + b.toNat) * 64 + c.toNat) * 64 + d.toNat
    UInt8.ofNat (n / 65536) :: UInt8.ofNat (n / 256 % 256) :: UInt8.ofNat (n % 256) :: packGroups rest
  | _ => []

/-- One symbol of the last group (at offset `start`), the index counted within the group: the
values read so far, how many padding octets were seen, where the first one stood, and the last
symbol. Padding in the first two places is refused, and so is a symbol after padding. -/
def lastGroupStep (a : Alphabet) (start : Nat)
    (acc : Except DecodeError (List Nat × Nat × Option Nat × UInt8)) (ib : Nat × UInt8) :
    Except DecodeError (List Nat × Nat × Option Nat × UInt8) :=
  match acc with
  | .error e => .error e
  | .ok (vals, pads, firstPad, last) =>
    let (i, b) := ib
    if b == padOctet then
      if i < 2 then .error (.invalidSymbol (start + i) b)
      else .ok (vals, pads + 1, if pads = 0 then some i else firstPad, last)
    else if pads > 0 then .error (.invalidSymbol (start + firstPad.getD 0) padOctet)
    else
      match a.value? b with
      | none => .error (.invalidSymbol (start + i) b)
      | some v => .ok (vals ++ [v], pads, firstPad, b)

/-- The last group's symbols (at offset `start`): values read until the end, with the padding
faults of the last group. Returns the values, the padding count and the last symbol. -/
def lastGroupValues (a : Alphabet) (start : Nat) (group : List UInt8) :
    Except DecodeError (List Nat × Nat × UInt8) :=
  let indexed := group.zipIdx.map fun (b, i) => (i, b)
  match indexed.foldl (lastGroupStep a start) (.ok ([], 0, none, 0)) with
  | .error e => .error e
  | .ok (vals, pads, _, last) => .ok (vals, pads, last)

/-- Whether a text whose length leaves a remainder of one ends in an octet that is neither a
symbol nor padding: that octet is refused before anything else is looked at. -/
def lastSymbolBad (a : Alphabet) (text : List UInt8) : Bool :=
  match text.getLast? with
  | some b => text.length % 4 == 1 && b != padOctet && (a.value? b).isNone
  | none => false

/-- Where the last group of a text of `len` symbols starts: after every whole group but the last
(a remainder of one leaves a lone last symbol). -/
def lastGroupStart (len : Nat) : Nat := len - len % 4 - (if len % 4 == 0 then 4 else 0)

/-- The values of the last group as one number, the first value in the top six of 32 bits. -/
def lastGroupNumber (vals : List Nat) : Nat :=
  vals.zipIdx.foldl (fun acc (v, i) => acc + v * Nat.pow 2 (26 - 6 * i)) 0

/-- **Decode** canonical unpadded Base64. -/
def decode (a : Alphabet) (text : List UInt8) : Except DecodeError (List UInt8) :=
  if lastSymbolBad a text then .error (.invalidSymbol (text.length - 1) (text.getLastD 0))
  else
    let bodyLen := lastGroupStart text.length
    match decodeBody a 0 (text.take bodyLen) with
    | .error e => .error e
    | .ok bodyValues =>
      match lastGroupValues a bodyLen (text.drop bodyLen) with
      | .error e => .error e
      | .ok (vals, pads, last) =>
        if text.length > 0 && vals.length < 2 then
          .error (.invalidLength (bodyLen + vals.length))
        else if pads > 0 then .error .invalidPadding
        else
          let count := vals.length * 6 / 8
          let n := lastGroupNumber vals
          if n % Nat.pow 2 (32 - 8 * count) != 0 then
            .error (.invalidLastSymbol (bodyLen + vals.length - 1) last)
          else
            let tail := (List.range count).map fun j => UInt8.ofNat (n / Nat.pow 2 (24 - 8 * j) % 256)
            .ok (packGroups bodyValues ++ tail)

end Base64

end Backoffice
