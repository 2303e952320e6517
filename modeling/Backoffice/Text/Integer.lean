/-! # Decimal integers of a fixed width

Reading the decimal text of an integer that must fit a fixed number of bits.

* **`IntegerError`** — why a text is not such an integer: it is empty, holds a symbol that is
  not a digit, or names a number beyond the width on either side.
* **`readUnsigned`** — an optional `+`, then one or more digits; a `-` is not a digit.
* **`readSigned`** — an optional `+` or `-`, then one or more digits.

The text is read left to right and the first fault found wins: at each symbol, a non-digit is
refused before the value so far is checked against the width. No blank space is allowed
anywhere, and a sign alone is not a number. -/

namespace Backoffice

namespace Text

/-- **Why a text is not an integer of the width asked for.** -/
inductive IntegerError where
  | empty
  | invalidDigit
  | tooLarge
  | tooSmall
  deriving DecidableEq, Repr

/-- The wording of an integer fault. -/
def IntegerError.message : IntegerError → String
  | .empty => "cannot parse integer from empty string"
  | .invalidDigit => "invalid digit found in string"
  | .tooLarge => "number too large to fit in target type"
  | .tooSmall => "number too small to fit in target type"

/-- The value of a decimal digit. -/
def digitOf? (c : Char) : Option Nat :=
  if '0' ≤ c ∧ c ≤ '9' then some (c.toNat - '0'.toNat) else none

/-- **Digits accumulated** onto `acc`, refusing a non-digit and a value above `limit`
(reported as `overflow`), whichever comes first. -/
def accumulate (limit : Nat) (overflow : IntegerError) : Nat → List Char → Except IntegerError Nat
  | acc, [] => .ok acc
  | acc, c :: rest =>
    match digitOf? c with
    | none => .error .invalidDigit
    | some d =>
      let next := acc * 10 + d
      if next > limit then .error overflow else accumulate limit overflow next rest

/-- **An unsigned integer of `bits` bits.** -/
def readUnsigned (bits : Nat) (s : String) : Except IntegerError Nat :=
  let limit := Nat.pow 2 bits - 1
  match s.toList with
  | [] => .error .empty
  | ['+'] => .error .invalidDigit
  | ['-'] => .error .invalidDigit
  | '+' :: rest => accumulate limit .tooLarge 0 rest
  | cs => accumulate limit .tooLarge 0 cs

/-- **A signed integer of `bits` bits**, in two's complement range. -/
def readSigned (bits : Nat) (s : String) : Except IntegerError Int :=
  let limit := Nat.pow 2 (bits - 1)
  match s.toList with
  | [] => .error .empty
  | ['+'] => .error .invalidDigit
  | ['-'] => .error .invalidDigit
  | '-' :: rest => (accumulate limit .tooSmall 0 rest).map fun n => -(n : Int)
  | '+' :: rest => (accumulate (limit - 1) .tooLarge 0 rest).map fun n => (n : Int)
  | cs => (accumulate (limit - 1) .tooLarge 0 cs).map fun n => (n : Int)

/-- A digit-only text reads as its value. -/
example : readUnsigned 32 "4294967295" = .ok 4294967295 := by rfl

example : readUnsigned 32 "4294967296" = .error .tooLarge := by rfl

example : readUnsigned 32 "-0" = .error .invalidDigit := by rfl

example : readSigned 64 "-9223372036854775808" = .ok (-9223372036854775808) := by rfl

example : readSigned 64 "+900" = .ok 900 := by rfl

end Text

end Backoffice
