/-! # Where UTF-8 breaks

The first place where a sequence of octets stops being well-formed UTF-8.

* **`Utf8Fault`** — how many octets were valid before it, and how long the invalid sequence
  is; no length when the octets end in the middle of a character.
* **`Utf8Fault.first?`** — the first fault. After a lead octet, the allowed range of the second
  octet depends on the lead (no overlong forms, no surrogates, nothing above U+10FFFF); later
  octets are continuation octets. The length of an invalid sequence counts the octets that
  were acceptable before the one that is not. -/

namespace Backoffice

namespace Text

/-- **A UTF-8 fault**: the valid prefix length and the length of the bad sequence. -/
structure Utf8Fault where
  validUpTo : Nat
  errorLength : Option Nat
  deriving DecidableEq, Repr

/-- The wording of a UTF-8 fault. -/
def Utf8Fault.message (f : Utf8Fault) : String :=
  match f.errorLength with
  | some n =>
    "invalid utf-8 sequence of " ++ toString n ++ " bytes from index " ++ toString f.validUpTo
  | none => "incomplete utf-8 byte sequence from index " ++ toString f.validUpTo

/-- A continuation octet. -/
def isContinuation (b : UInt8) : Bool := 0x80 ≤ b && b ≤ 0xBF

/-- The range of the second octet after a lead octet, and how many octets the character has. -/
def leadShape (b : UInt8) : Option (UInt8 × UInt8 × Nat) :=
  if 0xC2 ≤ b && b ≤ 0xDF then some (0x80, 0xBF, 2)
  else if b == 0xE0 then some (0xA0, 0xBF, 3)
  else if 0xE1 ≤ b && b ≤ 0xEC then some (0x80, 0xBF, 3)
  else if b == 0xED then some (0x80, 0x9F, 3)
  else if 0xEE ≤ b && b ≤ 0xEF then some (0x80, 0xBF, 3)
  else if b == 0xF0 then some (0x90, 0xBF, 4)
  else if 0xF1 ≤ b && b ≤ 0xF3 then some (0x80, 0xBF, 4)
  else if b == 0xF4 then some (0x80, 0x8F, 4)
  else none

/-- **The first UTF-8 fault** of octets whose first `at_` octets were valid. -/
def firstFaultFrom (at_ : Nat) : List UInt8 → Option Utf8Fault
  | [] => none
  | b :: rest =>
    if b < 0x80 then firstFaultFrom (at_ + 1) rest
    else
      match leadShape b with
      | none => some ⟨at_, some 1⟩
      | some (lo, hi, width) =>
        match rest with
        | [] => some ⟨at_, none⟩
        | b2 :: rest2 =>
          if !(lo ≤ b2 && b2 ≤ hi) then some ⟨at_, some 1⟩
          else if width = 2 then firstFaultFrom (at_ + 2) rest2
          else
            match rest2 with
            | [] => some ⟨at_, none⟩
            | b3 :: rest3 =>
              if !isContinuation b3 then some ⟨at_, some 2⟩
              else if width = 3 then firstFaultFrom (at_ + 3) rest3
              else
                match rest3 with
                | [] => some ⟨at_, none⟩
                | b4 :: rest4 =>
                  if !isContinuation b4 then some ⟨at_, some 3⟩
                  else firstFaultFrom (at_ + 4) rest4

/-- **The first UTF-8 fault** of a sequence of octets, if there is one. -/
def Utf8Fault.first? (bs : List UInt8) : Option Utf8Fault := firstFaultFrom 0 bs

example : Utf8Fault.first? [0x61, 0xFF] = some ⟨1, some 1⟩ := by decide
example : Utf8Fault.first? [0xE2, 0x82] = some ⟨0, none⟩ := by decide
example : Utf8Fault.first? [0xE2, 0x82, 0x41] = some ⟨0, some 2⟩ := by decide
example : Utf8Fault.first? [0xED, 0xA0, 0x80] = some ⟨0, some 1⟩ := by decide

end Text

end Backoffice
