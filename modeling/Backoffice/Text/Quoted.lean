import Backoffice.Text.Unprintable
import Backoffice.Text.GraphemeExtend

/-! # Quoted text in diagnostics

How diagnostics quote a piece of text: between double quotes, with `\0`, `\t`, `\r`, `\n`,
`\\` and `\"` for those characters, and `\u{…}` (lowercase hexadecimal, no leading zeros) for
grapheme extenders and for characters that are not shown as themselves. Every other character
stands for itself. -/

namespace Backoffice

namespace Text

/-- Lowercase hexadecimal digits of a number, without leading zeros. -/
def hexText (n : Nat) : String := String.ofList (Nat.toDigits 16 n)

/-- The escape `\u{…}` of a code point. -/
def unicodeEscape (c : Char) : String := "\\u\x7b" ++ hexText c.toNat ++ "\x7d"

/-- **How one character of quoted text is written.** -/
def quotedChar (c : Char) : String :=
  if c = '\x00' then "\\0"
  else if c = '\t' then "\\t"
  else if c = '\r' then "\\r"
  else if c = '\n' then "\\n"
  else if c = '\\' then "\\\\"
  else if c = '"' then "\\\""
  else if graphemeExtend.contains c.toNat then unicodeEscape c
  else if unprintable.contains c.toNat then unicodeEscape c
  else String.singleton c

/-- **Text between double quotes**, each character written by `quotedChar`. -/
def quoted (s : String) : String :=
  "\"" ++ String.join (s.toList.map quotedChar) ++ "\""

end Text

end Backoffice
