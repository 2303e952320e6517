import Backoffice.Idna.Domain
import Backoffice.Net.Address
import Backoffice.Text.WhiteSpace

/-! # E-mail addresses

When a text is accepted as an e-mail address.

* **`localPartOk`** — one or more of the ASCII letters and digits and `.!#$%&'*+/=?^_` and
  the backquote, braces, bar, tilde and hyphen.
* **`hostNameOk`** — dot-separated labels of 1 to 63 ASCII letters, digits and hyphens that
  start and end with a letter or digit.
* **`domainPartOk`** — a host name, or a text ending in an IP address literal in brackets.
* **`isValidAddress`** — blank space trimmed from both ends, then: an `@`, a local part
  (before the last `@`) of at most 64 characters that is `localPartOk`, and a domain of at
  most 255 characters that is `domainPartOk` itself or after conversion to ASCII as an
  internationalized domain name. -/

namespace Backoffice

namespace Mail

/-- The symbols allowed in a local part besides letters and digits. -/
def localSymbols : List Char := ".!#$%&'*+/=?^_\x60\x7b|\x7d~-".toList

/-- **A character of a local part.** -/
def isLocalChar (c : Char) : Bool :=
  (c.isAlphanum && c.toNat < 0x80) || localSymbols.contains c

/-- **An acceptable local part.** -/
def localPartOk (s : String) : Bool := !s.isEmpty && s.toList.all isLocalChar

/-- An ASCII letter or digit. -/
def isAsciiAlnum (c : Char) : Bool := c.isAlphanum && c.toNat < 0x80

/-- **A label of a host name.** -/
def labelOk (label : List Char) : Bool :=
  match label.head?, label.getLast? with
  | some a, some z =>
    label.length ≤ 63 && isAsciiAlnum a && isAsciiAlnum z &&
      label.all fun c => isAsciiAlnum c || c == '-'
  | _, _ => false

/-- **A host name.** -/
def hostNameOk (s : String) : Bool := (s.toList.splitOn '.').all labelOk

/-- A character of an address literal. -/
def isLiteralChar (c : Char) : Bool :=
  c.isDigit || ('a' ≤ c && c ≤ 'f') || ('A' ≤ c && c ≤ 'F') || c == ':' || c == '.'

/-- **The address literal at the end of a domain**: the text between the last `[` and a final
`]`, when it consists of literal characters only. -/
def literalAtEnd? (s : String) : Option String :=
  match s.toList.reverse with
  | ']' :: rest =>
    let inner := rest.takeWhile isLiteralChar
    match rest.drop inner.length with
    | '[' :: _ => if inner.isEmpty then none else some (String.ofList inner.reverse)
    | _ => none
  | _ => none

/-- **An acceptable domain**: a host name or an IP address literal at the end. -/
def domainPartOk (s : String) : Bool :=
  hostNameOk s ||
    match literalAtEnd? s with
    | some ip => (Net.IpAddress.parse? ip).isSome
    | none => false

/-- **Whether an untrimmed text is an e-mail address.** -/
def addressOk (s : String) : Bool :=
  let cs := s.toList
  if !cs.contains '@' then false
  else
    let atPos := ((cs.zipIdx.filter fun (c, _) => c == '@').getLast?.map Prod.snd).getD 0
    let localPart := String.ofList (cs.take atPos)
    let domain := String.ofList (cs.drop (atPos + 1))
    if localPart.length > 64 || domain.length > 255 then false
    else if !localPartOk localPart then false
    else if domainPartOk domain then true
    else
      match Idna.toAscii domain with
      | .ok ascii => domainPartOk ascii
      | .error _ => false

/-- **Whether a text is an e-mail address**, blank space at its ends ignored. -/
def isValidAddress (s : String) : Bool :=
  let t := Text.trimWhiteSpace s
  !t.isEmpty && addressOk t

end Mail

end Backoffice
