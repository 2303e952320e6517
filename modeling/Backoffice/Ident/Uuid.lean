/-! # Universally unique identifiers

A UUID is a 128-bit number.

* **`Uuid.render`** — the hyphenated form: 32 lowercase hex digits in groups of 8, 4, 4, 4
  and 12.
* **`Uuid.parse?`** — 32 hex digits, the hyphenated form, the hyphenated form in braces, or
  the hyphenated form after `urn:uuid:`; hex digits in either case.
* **`Uuid.version4`** — a number made into a random-form (version 4, variant 1) UUID. -/

namespace Backoffice

/-- **A UUID**: a number below 2^128. -/
structure Uuid where
  value : Nat
  deriving DecidableEq, Repr, Ord

namespace Uuid

/-- The hex digit of a value below 16, lowercase. -/
def hexDigit (n : Nat) : Char := "0123456789abcdef".toList.getD n '0'

/-- The value of a hex digit in either case. -/
def hexValue? (c : Char) : Option Nat :=
  let n := c.toNat
  if 0x30 ≤ n ∧ n ≤ 0x39 then some (n - 0x30)
  else if 0x61 ≤ n ∧ n ≤ 0x66 then some (n - 0x61 + 10)
  else if 0x41 ≤ n ∧ n ≤ 0x46 then some (n - 0x41 + 10)
  else none

/-- The 32 hex digits of a UUID, most significant first. -/
def digits (u : Uuid) : List Char :=
  (List.range 32).map fun i => hexDigit (u.value / Nat.pow 16 (31 - i) % 16)

/-- **The hyphenated form.** -/
def render (u : Uuid) : String :=
  let ds := u.digits
  String.ofList (ds.take 8) ++ "-" ++ String.ofList ((ds.drop 8).take 4) ++ "-" ++
    String.ofList ((ds.drop 12).take 4) ++ "-" ++ String.ofList ((ds.drop 16).take 4) ++ "-" ++
    String.ofList (ds.drop 20)

/-- The number of 32 hex digits. -/
def ofDigits? (cs : List Char) : Option Uuid :=
  if cs.length = 32 then
    (cs.mapM hexValue?).map fun vs => ⟨vs.foldl (fun acc v => acc * 16 + v) 0⟩
  else none

/-- The digits of the hyphenated form, if the hyphens are in place. -/
def unhyphenate (cs : List Char) : Option (List Char) :=
  if cs.length = 36 ∧ cs.getD 8 ' ' = '-' ∧ cs.getD 13 ' ' = '-' ∧ cs.getD 18 ' ' = '-' ∧
      cs.getD 23 ' ' = '-' then
    some (cs.take 8 ++ (cs.drop 9).take 4 ++ (cs.drop 14).take 4 ++ (cs.drop 19).take 4 ++
      cs.drop 24)
  else none

/-- **Read a UUID** in any of its four written forms. -/
def parse? (s : String) : Option Uuid :=
  let cs := s.toList
  match cs.length with
  | 32 => ofDigits? cs
  | 36 => (unhyphenate cs).bind ofDigits?
  | 38 =>
    if cs.head? = some '{' ∧ cs.getLast? = some '}' then
      (unhyphenate (cs.drop 1).dropLast).bind ofDigits?
    else none
  | 45 =>
    if cs.take 9 = "urn:uuid:".toList then (unhyphenate (cs.drop 9)).bind ofDigits? else none
  | _ => none

/-- **A random-form UUID** from a number: version 4 and variant 1 bits set over its low bits. -/
def version4 (n : Nat) : Uuid :=
  let low := n % Nat.pow 2 62
  let high := n / Nat.pow 2 62 % Nat.pow 2 60
  let hi := high / Nat.pow 2 12 * Nat.pow 2 16 + 4 * Nat.pow 2 12 + high % Nat.pow 2 12
  ⟨hi * Nat.pow 2 64 + 2 * Nat.pow 2 62 + low⟩

/-- Whether a UUID has the random form: version 4, variant 1. -/
def isVersion4 (u : Uuid) : Bool :=
  u.value / Nat.pow 2 76 % 16 == 4 && u.value / Nat.pow 2 62 % 4 == 2

example : (Uuid.mk 1).render = "00000000-0000-0000-0000-000000000001" := by decide +kernel

end Uuid

end Backoffice
