import Backoffice.Json.Error
import Backoffice.Json.Value
import Backoffice.Decimal.Binary64

/-! # Scanning JSON tokens

The token scanners that readers of JSON text share. A `Cursor` is the octets not yet read and
the number already read; every scanner returns the cursor after what it consumed, or a
`ReadError` placed at the offset where it stopped.

* **`Cursor.skipBlank`** — space, tab, newline and carriage return.
* **`Cursor.readString`** — a string body after its opening quote: escapes decoded, a surrogate
  pair joined into one character, the octets checked to be UTF-8. A lone surrogate, an
  unfinished escape or a raw control character is refused.
* **`Cursor.skipString`** — the same text skipped without decoding: escapes are checked for
  form only, surrogates and UTF-8 are not looked at.
* **`Cursor.readNumber`** — a number after its optional minus sign, with the form it has:
  whole numbers that fit 64 bits stay whole, everything else becomes binary64 by scaling the
  first nineteen or twenty significant digits by a power of ten; a value beyond the finite
  range is refused.
* **`Cursor.skipNumber`** — a number checked for form only.
* **`Cursor.expectWord`** — the rest of `null`, `true` or `false`. -/

namespace Backoffice

namespace Json

/-- **A place in JSON text**: the octets still to read and how many were read before them. -/
structure Cursor where
  rest : List UInt8
  offset : Nat
  deriving DecidableEq, Repr

/-- Result of a scanner: a value and the cursor after it, or a refusal. -/
abbrev Scan (α : Type) := Except ReadError (α × Cursor)

namespace Cursor

/-- The cursor at the start of a text. -/
def start (text : List UInt8) : Cursor := ⟨text, 0⟩

/-- The next octet, if any. -/
def peek (c : Cursor) : Option UInt8 := c.rest.head?

/-- The cursor one octet further (unchanged at the end). -/
def bump (c : Cursor) : Cursor :=
  match c.rest with
  | [] => c
  | _ :: tl => ⟨tl, c.offset + 1⟩

/-- A refusal at the cursor. -/
def fail (c : Cursor) (code : SyntaxCode) : ReadError := ⟨.grammar code, some c.offset⟩

/-- A refusal at the octet after the cursor: the one that was looked at and not taken. At the
end of the text this is the end itself. -/
def failAhead (c : Cursor) (code : SyntaxCode) : ReadError :=
  ⟨.grammar code, some (if c.rest.isEmpty then c.offset else c.offset + 1)⟩

/-- Whether an octet is JSON blank space. -/
def isBlank (b : UInt8) : Bool := b == 0x20 || b == 0x0A || b == 0x09 || b == 0x0D

/-- **Skip blank space.** -/
def skipBlank (c : Cursor) : Cursor :=
  match c with
  | ⟨b :: tl, i⟩ => if isBlank b then skipBlank ⟨tl, i + 1⟩ else c
  | ⟨[], _⟩ => c
termination_by c.rest.length

/-- **The rest of a literal word**: each expected octet in turn. A missing octet ends the text
early; a different octet is taken and refused. -/
def expectWord : List UInt8 → Cursor → Except ReadError Cursor
  | [], c => .ok c
  | w :: ws, c =>
    match c.rest with
    | [] => .error (c.fail .eofWhileParsingValue)
    | b :: tl =>
      if b == w then expectWord ws ⟨tl, c.offset + 1⟩
      else .error (Cursor.fail ⟨tl, c.offset + 1⟩ .expectedSomeIdent)

end Cursor

/-! ## Strings -/

/-- The value of an ASCII hexadecimal digit. -/
def hexDigit? (b : UInt8) : Option Nat :=
  if 0x30 ≤ b ∧ b ≤ 0x39 then some (b.toNat - 0x30)
  else if 0x61 ≤ b ∧ b ≤ 0x66 then some (b.toNat - 0x61 + 10)
  else if 0x41 ≤ b ∧ b ≤ 0x46 then some (b.toNat - 0x41 + 10)
  else none

/-- Four hexadecimal digits as a 16-bit number. -/
def hex4? (a b c d : UInt8) : Option Nat := do
  let w ← hexDigit? a
  let x ← hexDigit? b
  let y ← hexDigit? c
  let z ← hexDigit? d
  pure (((w * 16 + x) * 16 + y) * 16 + z)

/-- The octet that a one-letter escape stands for. -/
def shortEscape? (e : UInt8) : Option UInt8 :=
  if e == 0x22 then some 0x22          -- \"
  else if e == 0x5C then some 0x5C     -- \\
  else if e == 0x2F then some 0x2F     -- \/
  else if e == 0x62 then some 0x08     -- \b
  else if e == 0x66 then some 0x0C     -- \f
  else if e == 0x6E then some 0x0A     -- \n
  else if e == 0x72 then some 0x0D     -- \r
  else if e == 0x74 then some 0x09     -- \t
  else none

/-- Whether a 16-bit unit is a high (leading) surrogate. -/
def isHighSurrogate (n : Nat) : Bool := 0xD800 ≤ n && n ≤ 0xDBFF

/-- Whether a 16-bit unit is a low (trailing) surrogate. -/
def isLowSurrogate (n : Nat) : Bool := 0xDC00 ≤ n && n ≤ 0xDFFF

/-- The octets of a string body read so far, newest first, are appended by `push`. -/
def pushChar (n : Nat) (acc : List UInt8) : List UInt8 :=
  (String.utf8EncodeChar (Char.ofNat n)).reverse ++ acc

/-- **Read a string body** from `rest` (after the opening quote; `i` octets read before it),
collecting its octets newest first in `acc`. Returns the octets and the cursor after the
closing quote. -/
def readStringOctets (rest : List UInt8) (i : Nat) (acc : List UInt8) :
    Except ReadError (List UInt8 × Cursor) :=
  match rest with
  | [] => .error ⟨.grammar .eofWhileParsingString, some i⟩
  | 0x22 :: tl => .ok (acc.reverse, ⟨tl, i + 1⟩)
  | 0x5C :: tl =>
    match tl with
    | [] => .error ⟨.grammar .eofWhileParsingString, some (i + 1)⟩
    | e :: tl2 =>
      match shortEscape? e with
      | some o => readStringOctets tl2 (i + 2) (o :: acc)
      | none =>
        if e != 0x75 then .error ⟨.grammar .invalidEscape, some (i + 2)⟩
        else
          match tl2 with
          | a :: b :: c :: d :: tl3 =>
            match hex4? a b c d with
            | none => .error ⟨.grammar .invalidEscape, some (i + 6)⟩
            | some n =>
              if isLowSurrogate n then .error ⟨.grammar .loneLeadingSurrogateInHexEscape, some (i + 6)⟩
              else if isHighSurrogate n then
                match tl3 with
                | [] => .error ⟨.grammar .eofWhileParsingString, some (i + 6)⟩
                | 0x5C :: tl4 =>
                  match tl4 with
                  | [] => .error ⟨.grammar .eofWhileParsingString, some (i + 7)⟩
                  | 0x75 :: tl5 =>
                    match tl5 with
                    | a2 :: b2 :: c2 :: d2 :: tl6 =>
                      match hex4? a2 b2 c2 d2 with
                      | none => .error ⟨.grammar .invalidEscape, some (i + 12)⟩
                      | some n2 =>
                        if isLowSurrogate n2 then
                          let cp := ((n - 0xD800) * 1024 + (n2 - 0xDC00)) + 0x10000
                          readStringOctets tl6 (i + 12) (pushChar cp acc)
                        else .error ⟨.grammar .loneLeadingSurrogateInHexEscape, some (i + 12)⟩
                    | _ => .error ⟨.grammar .eofWhileParsingString, some (i + 8 + tl5.length)⟩
                  | _ :: _ => .error ⟨.grammar .unexpectedEndOfHexEscape, some (i + 8)⟩
                | _ :: _ => .error ⟨.grammar .unexpectedEndOfHexEscape, some (i + 7)⟩
              else readStringOctets tl3 (i + 6) (pushChar n acc)
          | _ => .error ⟨.grammar .eofWhileParsingString, some (i + 2 + tl2.length)⟩
  | b :: tl =>
    if b < 0x20 then .error ⟨.grammar .controlCharacterWhileParsingString, some (i + 1)⟩
    else readStringOctets tl (i + 1) (b :: acc)

/-- **Read a string body** after its opening quote, as text. Octets that are not UTF-8 are
refused once the closing quote is reached. -/
def Cursor.readString (c : Cursor) : Scan String :=
  match readStringOctets c.rest c.offset [] with
  | .error e => .error e
  | .ok (octets, c') =>
    match String.fromUTF8? ⟨octets.toArray⟩ with
    | some s => .ok (s, c')
    | none => .error (c'.fail .invalidUnicodeCodePoint)

/-- **Skip a string body** after its opening quote, checking only that each escape has its
form; the octets themselves are not decoded. -/
def skipStringOctets (rest : List UInt8) (i : Nat) : Except ReadError Cursor :=
  match rest with
  | [] => .error ⟨.grammar .eofWhileParsingString, some i⟩
  | 0x22 :: tl => .ok ⟨tl, i + 1⟩
  | 0x5C :: tl =>
    match tl with
    | [] => .error ⟨.grammar .eofWhileParsingString, some (i + 1)⟩
    | e :: tl2 =>
      if (shortEscape? e).isSome then skipStringOctets tl2 (i + 2)
      else if e != 0x75 then .error ⟨.grammar .invalidEscape, some (i + 2)⟩
      else
        match tl2 with
        | a :: b :: c :: d :: tl3 =>
          if (hex4? a b c d).isSome then skipStringOctets tl3 (i + 6)
          else .error ⟨.grammar .invalidEscape, some (i + 6)⟩
        | _ => .error ⟨.grammar .eofWhileParsingString, some (i + 2 + tl2.length)⟩
  | b :: tl =>
    if b < 0x20 then .error ⟨.grammar .controlCharacterWhileParsingString, some i⟩
    else skipStringOctets tl (i + 1)

/-- Skip a string body after its opening quote. -/
def Cursor.skipString (c : Cursor) : Except ReadError Cursor :=
  skipStringOctets c.rest c.offset

/-! ## Numbers -/

/-- Whether an octet is an ASCII digit. -/
def isDigit (b : UInt8) : Bool := 0x30 ≤ b && b ≤ 0x39

/-- The value of an ASCII digit octet. -/
def digitValue (b : UInt8) : Nat := b.toNat - 0x30

/-- The largest unsigned 64-bit value. -/
def uint64Max : Nat := Nat.pow 2 64 - 1

/-- The largest signed 32-bit value, the bound on a written exponent. -/
def int32Max : Int := Int.pow 2 31 - 1

/-- Addition clamped to signed 32 bits. -/
def addClamped (a b : Int) : Int := max (-Int.pow 2 31) (min int32Max (a + b))

/-- **Scale a significand by a power of ten in binary64.** The significand is rounded to
binary64 first; then one multiplication or division by `10^|e|` when `|e| ≤ 308`, else repeated
division by `10^308` while the value is not zero. A product that overflows is refused. -/
def scaleByPow10 (significand : Nat) (e : Int) (fuel : Nat) : Option Float :=
  go (Float.ofBits (Binary64.ofNat significand)) e fuel
where
  go (f : Float) (e : Int) : Nat → Option Float
    | 0 => some f
    | fuel + 1 =>
      if e.natAbs ≤ 308 then
        if e ≥ 0 then
          let g := f * Binary64.pow10 e.natAbs
          if g.isInf then none else some g
        else some (f / Binary64.pow10 e.natAbs)
      else if f == 0 then some f
      else if e ≥ 0 then none
      else go (f / Binary64.pow10 308) (e + 308) fuel

/-- The binary64 value of `±significand * 10^e`, or a refusal at `c` when out of range. -/
def floatFromParts (c : Cursor) (positive : Bool) (significand : Nat) (e : Int) :
    Scan JsonNumber :=
  match scaleByPow10 significand e 8 with
  | none => .error (c.fail .numberOutOfRange)
  | some f => .ok (.float (if positive then f else -f).toBits, c)

/-- Skip a run of digits. -/
def skipDigits (c : Cursor) : Cursor :=
  match c with
  | ⟨b :: tl, i⟩ => if isDigit b then skipDigits ⟨tl, i + 1⟩ else c
  | ⟨[], _⟩ => c
termination_by c.rest.length

/-- After an exponent's first digit: more digits, refusing or flushing to zero when the
exponent leaves signed 32 bits. -/
def exponentDigits (positive : Bool) (significand : Nat) (start : Int) (positiveExp : Bool)
    (exp : Nat) (c : Cursor) : Scan JsonNumber :=
  match c with
  | ⟨b :: tl, i⟩ =>
    if isDigit b then
      let c' : Cursor := ⟨tl, i + 1⟩
      let exp' := exp * 10 + digitValue b
      if (exp' : Int) > int32Max then
        if significand != 0 && positiveExp then .error (c'.fail .numberOutOfRange)
        else
          let z : Float := if positive then 0.0 else -0.0
          .ok (.float z.toBits, skipDigits c')
      else exponentDigits positive significand start positiveExp exp' c'
    else
      floatFromParts c positive significand
        (if positiveExp then addClamped start exp else addClamped start (-(exp : Int)))
  | ⟨[], _⟩ =>
    floatFromParts c positive significand
      (if positiveExp then addClamped start exp else addClamped start (-(exp : Int)))
termination_by c.rest.length

/-- An exponent part, the cursor on its `e` or `E`. -/
def readExponent (positive : Bool) (significand : Nat) (start : Int) (c : Cursor) :
    Scan JsonNumber :=
  let c1 := c.bump
  let (positiveExp, c2) :=
    match c1.peek with
    | some 0x2B => (true, c1.bump)
    | some 0x2D => (false, c1.bump)
    | _ => (true, c1)
  match c2.rest with
  | [] => .error (c2.fail .eofWhileParsingValue)
  | b :: tl =>
    let c3 : Cursor := ⟨tl, c2.offset + 1⟩
    if isDigit b then exponentDigits positive significand start positiveExp (digitValue b) c3
    else .error (c3.fail .invalidNumber)

/-- After the significand overflowed 64 bits in the fraction: the remaining digits are
dropped. -/
def afterFractionOverflow (positive : Bool) (significand : Nat) (e : Int) (c : Cursor) :
    Scan JsonNumber :=
  let c' := skipDigits c
  match c'.peek with
  | some 0x65 | some 0x45 => readExponent positive significand e c'
  | _ => floatFromParts c' positive significand e

/-- Fraction digits: each is added to the significand while it fits 64 bits. `count` is the
number of fraction digits taken so far. -/
def fractionDigits (positive : Bool) (significand : Nat) (before : Int) (count : Nat)
    (c : Cursor) : Scan JsonNumber :=
  match c with
  | ⟨b :: tl, i⟩ =>
    if isDigit b then
      let s' := significand * 10 + digitValue b
      if s' > uint64Max then
        afterFractionOverflow positive significand (before - count) c
      else fractionDigits positive s' before (count + 1) ⟨tl, i + 1⟩
    else fractionEnd positive significand before count c
  | ⟨[], _⟩ => fractionEnd positive significand before count c
termination_by c.rest.length
where
  fractionEnd (positive : Bool) (significand : Nat) (before : Int) (count : Nat) (c : Cursor) :
      Scan JsonNumber :=
    if count = 0 then
      match c.peek with
      | some _ => .error (c.failAhead .invalidNumber)
      | none => .error (c.failAhead .eofWhileParsingValue)
    else
      match c.peek with
      | some 0x65 | some 0x45 => readExponent positive significand (before - count) c
      | _ => floatFromParts c positive significand (before - count)

/-- A fraction part, the cursor on its `.`. -/
def readFraction (positive : Bool) (significand : Nat) (before : Int) (c : Cursor) :
    Scan JsonNumber :=
  fractionDigits positive significand before 0 c.bump

/-- What follows a whole part that fit 64 bits: a fraction, an exponent or nothing. A whole
negative number is `negInt` when it fits signed 64 bits; `-0` and larger ones are floats. -/
def afterWhole (positive : Bool) (significand : Nat) (c : Cursor) : Scan JsonNumber :=
  match c.peek with
  | some 0x2E => readFraction positive significand 0 c
  | some 0x65 | some 0x45 => readExponent positive significand 0 c
  | _ =>
    if positive then .ok (.posInt significand, c)
    else if 1 ≤ significand ∧ significand ≤ Nat.pow 2 63 then .ok (.negInt (-(significand : Int)), c)
    else
      let f := -(Float.ofBits (Binary64.ofNat significand))
      .ok (.float f.toBits, c)

/-- Digits of a whole part beyond 64 bits: each raises the decimal exponent instead. -/
def longWhole (positive : Bool) (significand : Nat) (extra : Nat) (c : Cursor) :
    Scan JsonNumber :=
  match c with
  | ⟨b :: tl, i⟩ =>
    if isDigit b then longWhole positive significand (extra + 1) ⟨tl, i + 1⟩
    else if b == 0x2E then readFraction positive significand extra c
    else if b == 0x65 || b == 0x45 then readExponent positive significand extra c
    else floatFromParts c positive significand extra
  | ⟨[], _⟩ => floatFromParts c positive significand extra
termination_by c.rest.length

/-- Digits of a whole part after its first, while the significand fits 64 bits. -/
def wholeDigits (positive : Bool) (significand : Nat) (c : Cursor) : Scan JsonNumber :=
  match c with
  | ⟨b :: tl, i⟩ =>
    if isDigit b then
      let s' := significand * 10 + digitValue b
      if s' > uint64Max then longWhole positive significand 0 c
      else wholeDigits positive s' ⟨tl, i + 1⟩
    else afterWhole positive significand c
  | ⟨[], _⟩ => afterWhole positive significand c
termination_by c.rest.length

/-- **Read a number**, the cursor after its minus sign if any (`positive` says which). -/
def Cursor.readNumber (c : Cursor) (positive : Bool) : Scan JsonNumber :=
  match c.rest with
  | [] => .error (c.fail .eofWhileParsingValue)
  | b :: tl =>
    let c1 : Cursor := ⟨tl, c.offset + 1⟩
    if b == 0x30 then
      match c1.peek with
      | some d => if isDigit d then .error (c1.failAhead .invalidNumber) else afterWhole positive 0 c1
      | none => afterWhole positive 0 c1
    else if isDigit b then wholeDigits positive (digitValue b) c1
    else .error (c1.fail .invalidNumber)

/-- An exponent checked for form only, the cursor on its `e` or `E`. -/
def skipExponent (c : Cursor) : Except ReadError Cursor :=
  let c1 := c.bump
  let c2 := match c1.peek with
    | some 0x2B | some 0x2D => c1.bump
    | _ => c1
  match c2.rest with
  | b :: tl =>
    let c3 : Cursor := ⟨tl, c2.offset + 1⟩
    if isDigit b then .ok (skipDigits c3) else .error (c3.fail .invalidNumber)
  | [] => .error (c2.fail .invalidNumber)

/-- **Skip a number** checked for form only, the cursor after its minus sign if any. -/
def Cursor.skipNumber (c : Cursor) : Except ReadError Cursor := do
  let c1 ← match c.rest with
    | [] => .error (c.fail .invalidNumber)
    | b :: tl =>
      let c1 : Cursor := ⟨tl, c.offset + 1⟩
      if b == 0x30 then
        match c1.peek with
        | some d => if isDigit d then .error (c1.failAhead .invalidNumber) else pure c1
        | none => pure c1
      else if isDigit b then pure (skipDigits c1)
      else .error (c1.fail .invalidNumber)
  match c1.peek with
  | some 0x2E =>
    let c2 := c1.bump
    let c3 := skipDigits c2
    if c3.offset = c2.offset then .error (c3.failAhead .invalidNumber)
    else
      match c3.peek with
      | some 0x65 | some 0x45 => skipExponent c3
      | _ => pure c3
  | some 0x65 | some 0x45 => skipExponent c1
  | _ => pure c1

end Json

end Backoffice
