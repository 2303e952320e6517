import Backoffice.Net.Address
import Backoffice.Text.Utf8
import Backoffice.Idna.Domain

/-! # Locators

The parts of an absolute URL as the WHATWG URL standard reads them, enough to take a database
locator apart: scheme, user information, host, port, path and query.

* **`Url.parse`** — leading and trailing control characters and spaces are dropped and tabs and
  line breaks removed anywhere; the scheme is a letter followed by letters, digits, `+`, `-` or
  `.`, and a colon; without one the text is relative and refused. After `//` comes the
  authority: user information up to its last `@`, a host and an optional decimal port below
  65536. A host is an IPv6 address in brackets; under a special scheme (`http`, `https`, `ws`,
  `wss`, `ftp`, `file`) it is otherwise a domain, percent-decoded, brought to its ASCII form by
  the rules for internationalized domain names with the forbidden domain characters refused,
  and read as an IPv4 address when its last label is a number; under any other scheme it is
  text without any of the forbidden host characters. The path after the authority is split
  into segments, `.` segments are dropped and `..` segments drop the segment before them.
* **`ipv4Number?`**, **`ipv4Address?`** — the numbers of an IPv4 address as URLs write them:
  decimal, octal after a leading `0`, hexadecimal after `0x`; one to four of them, the last
  filling the bytes the others leave.
* **`percentDecode`** — `%` with two hex digits is the octet they name; any other `%` stands
  for itself.
* **`Url.queryPairs`** — the query split at `&`, each piece at its first `=`, with `+` read as a
  space, percent escapes decoded, and broken UTF-8 replaced by U+FFFD. -/

namespace Backoffice

namespace Net

/-- **Why a text is not an absolute URL.** -/
inductive UrlError where
  | emptyHost
  | invalidPort
  | invalidIpv6
  | invalidDomainCharacter
  | invalidIpv4
  | invalidDomain
  | relativeWithoutBase
  deriving DecidableEq, Repr

/-- The wording of a URL fault. -/
def UrlError.message : UrlError → String
  | .emptyHost => "empty host"
  | .invalidPort => "invalid port number"
  | .invalidIpv6 => "invalid IPv6 address"
  | .invalidDomainCharacter => "invalid domain character"
  | .invalidIpv4 => "invalid IPv4 address"
  | .invalidDomain => "invalid international domain name"
  | .relativeWithoutBase => "relative URL without a base"

/-- **An absolute URL**, its parts as written (escapes not decoded). -/
structure Url where
  scheme : String
  username : String
  password : Option String
  host : Option String
  port : Option Nat
  path : String
  query : Option String
  deriving DecidableEq, Repr

/-- The schemes with a fixed meaning, whose URLs always have a host. -/
def specialSchemes : List String := ["http", "https", "ws", "wss", "ftp", "file"]

/-- The default port of a special scheme. -/
def defaultPort : String → Option Nat
  | "http" => some 80
  | "https" => some 443
  | "ws" => some 80
  | "wss" => some 443
  | "ftp" => some 21
  | _ => none

/-- A character that no host may contain. -/
def isForbiddenHostChar (c : Char) : Bool :=
  "\x00\t\n\r #/:<>?@[\\]^|".toList.contains c

/-- A character that ends the authority. -/
def endsAuthority (special : Bool) (c : Char) : Bool :=
  c == '/' || c == '?' || c == '#' || (special && c == '\\')

/-- A character of a scheme after its first letter. -/
def isSchemeChar (c : Char) : Bool := c.isAlphanum || c == '+' || c == '-' || c == '.'

/-- The hex value of an octet that is a hex digit. -/
def hexOctet? (b : UInt8) : Option UInt8 :=
  if 0x30 ≤ b && b ≤ 0x39 then some (b - 0x30)
  else if 0x61 ≤ b && b ≤ 0x66 then some (b - 0x61 + 10)
  else if 0x41 ≤ b && b ≤ 0x46 then some (b - 0x41 + 10)
  else none

/-- **Percent-decode** octets. -/
def percentDecodeOctets : List UInt8 → List UInt8
  | b :: h :: l :: rest =>
    match b == 0x25, hexOctet? h, hexOctet? l with
    | true, some x, some y => (x * 16 + y) :: percentDecodeOctets rest
    | _, _, _ => b :: percentDecodeOctets (h :: l :: rest)
  | bs => bs
  termination_by bs => bs.length

example : percentDecodeOctets [0x25, 0x32, 0x46, 0x25, 0x41] = [0x2F, 0x25, 0x41] := by
  decide +kernel

/-- **Percent-decode** a text into octets. -/
def percentDecode (s : String) : List UInt8 := percentDecodeOctets s.toUTF8.toList

/-- The octets of a character in UTF-8. -/
def charOctets (c : Char) : List UInt8 := (String.singleton c).toUTF8.toList

/-- **Decode octets as UTF-8**, each broken sequence becoming U+FFFD. -/
def decodeLossy (bs : List UInt8) : String :=
  go bs.length bs ""
where
  /-- Decode with `fuel` steps, appending to `acc`. -/
  go : Nat → List UInt8 → String → String
    | 0, _, acc => acc
    | fuel + 1, bs, acc =>
      match Text.Utf8Fault.first? bs with
      | none => acc ++ (String.fromUTF8? ⟨bs.toArray⟩).getD ""
      | some f =>
        let good := (String.fromUTF8? ⟨(bs.take f.validUpTo).toArray⟩).getD ""
        match f.errorLength with
        | none => acc ++ good ++ "�"
        | some n => go fuel (bs.drop (f.validUpTo + n)) (acc ++ good ++ "�")

/-- The scheme and what follows its colon, if the text starts with one. -/
def splitScheme (cs : List Char) : Option (String × List Char) :=
  match cs with
  | c :: rest =>
    if c.isAlpha then
      let body := rest.takeWhile isSchemeChar
      match rest.drop body.length with
      | ':' :: after => some (String.ofList (c :: body) |>.toLower, after)
      | _ => none
    else none
  | [] => none

/-- **The port** after a colon: digits up to the end of the authority. -/
def readUrlPort (cs : List Char) : Except UrlError (Option Nat × List Char) :=
  let digits := cs.takeWhile Char.isDigit
  let rest := cs.drop digits.length
  let value := digits.foldl (fun acc c => acc * 10 + (c.toNat - 48)) 0
  let exceeds := (List.range digits.length).any fun i =>
    (digits.take (i + 1)).foldl (fun acc c => acc * 10 + (c.toNat - 48)) 0 > 0xFFFF
  if exceeds then .error .invalidPort
  else
    match rest with
    | c :: _ =>
      if c == '/' || c == '\\' || c == '?' || c == '#' then
        .ok (if digits.isEmpty then none else some value, rest)
      else .error .invalidPort
    | [] => .ok (if digits.isEmpty then none else some value, rest)

/-- The host text up to a colon outside brackets or the end of the authority. -/
def hostSpan (special : Bool) : Bool → List Char → List Char × List Char
  | _, [] => ([], [])
  | inside, c :: rest =>
    if (c == ':' && !inside) || endsAuthority special c then ([], c :: rest)
    else
      let inside' := if c == '[' then true else if c == ']' then false else inside
      let (h, r) := hostSpan special inside' rest
      (c :: h, r)

/-- A code point that no domain may hold in its ASCII form: a control, the space, delete, or
one of `%#/:<>?@[\]^|`. -/
def isForbiddenDomainCodePoint (cp : Nat) : Bool :=
  cp ≤ 0x20 || cp == 0x7F || "%#/:<>?@[\\]^|".toList.any (·.toNat == cp)

/-- The value of hexadecimal digits. -/
def hexValue (cs : List Char) : Nat :=
  cs.foldl (fun acc c =>
    acc * 16 + (if c.isDigit then c.toNat - 48 else (c.toLower.toNat - 97 + 10))) 0

/-- The value of digits in base 8 or 10. -/
def baseValue (base : Nat) (cs : List Char) : Nat :=
  cs.foldl (fun acc c => acc * base + (c.toNat - 48)) 0

/-- Whether a character is a hexadecimal digit. -/
def isHexChar (c : Char) : Bool :=
  c.isDigit || ('a' ≤ c.toLower && c.toLower ≤ 'f')

/-- **A number of an IPv4 address** as URLs write it: `0x` or `0X` and hexadecimal digits, a
leading `0` and octal digits, or decimal digits; a prefix alone is zero. The value may exceed
32 bits. -/
def ipv4Number? (part : List Char) : Option Nat :=
  match part with
  | [] => none
  | '0' :: x :: rest =>
    if x == 'x' || x == 'X' then
      if rest.all isHexChar then some (hexValue rest) else none
    else if (x :: rest).all (fun c => '0' ≤ c && c ≤ '7') then some (baseValue 8 (x :: rest))
    else none
  | cs => if cs.all Char.isDigit then some (baseValue 10 cs) else none

/-- **Whether a domain ends in a number**: its last label, or the one before an empty last
label, is all digits or an IPv4 number. -/
def endsInNumber (domain : String) : Bool :=
  let labels := domain.splitOn "."
  let labels := if labels.getLast? == some "" && labels.length > 1 then labels.dropLast else labels
  match labels.getLast? with
  | some last => (!last.isEmpty && last.toList.all Char.isDigit) || (ipv4Number? last.toList).isSome
  | none => false

/-- **The IPv4 address a domain writes**, as a 32-bit number: one to four numbers split by
dots (a last empty label is dropped), every number but the last a byte, and the last filling
the bytes that are left. -/
def ipv4Address? (domain : String) : Option Nat := do
  let parts := domain.splitOn "."
  let parts := if parts.getLast? == some "" then parts.dropLast else parts
  if parts.length > 4 then none
  let numbers ← parts.mapM fun p => (ipv4Number? p.toList).filter (· < Nat.pow 2 32)
  let last ← numbers.getLast?
  let front := numbers.dropLast
  if Nat.pow 256 (4 - front.length) ≤ last ∨ front.any (· > 255) then none
  pure (front.zipIdx.foldl (fun acc (n, i) => acc + n * Nat.pow 256 (3 - i)) last)

/-- The dotted text of a 32-bit IPv4 address. -/
def ipv4Text (a : Nat) : String :=
  ".".intercalate ([a / 16777216 % 256, a / 65536 % 256, a / 256 % 256, a % 256].map toString)

/-- **The host of a URL with a special scheme**: an IPv6 address in brackets, or a domain,
percent-decoded (broken UTF-8 is refused), in its ASCII form with no forbidden domain character,
not empty, and an IPv4 address when it ends in a number. -/
def specialHost (host : List Char) : Except UrlError String :=
  match host with
  | '[' :: inner =>
    if inner.getLast? != some ']' then .error .invalidIpv6
    else
      match whole readIpv6 (String.ofList inner.dropLast) with
      | some _ => .ok (String.ofList host)
      | none => .error .invalidIpv6
  | _ =>
    match String.fromUTF8? ⟨(percentDecode (String.ofList host)).toArray⟩ with
    | none => .error .invalidDomain
    | some text =>
      match Idna.toAsciiRefusing isForbiddenDomainCodePoint text with
      | .error _ => .error .invalidDomain
      | .ok ascii =>
        if ascii.isEmpty then .error .emptyHost
        else if endsInNumber ascii then
          match ipv4Address? ascii with
          | some a => .ok (ipv4Text a)
          | none => .error .invalidIpv4
        else .ok ascii

/-- **The host of a URL with any other scheme**: an IPv6 address in brackets, or text free of
the forbidden host characters, as written. -/
def opaqueHost (host : List Char) : Except UrlError String :=
  match host with
  | '[' :: inner =>
    if inner.getLast? != some ']' then .error .invalidIpv6
    else
      match whole readIpv6 (String.ofList inner.dropLast) with
      | some _ => .ok (String.ofList host)
      | none => .error .invalidIpv6
  | _ => if host.any isForbiddenHostChar then .error .invalidDomainCharacter
    else .ok (String.ofList host)

/-- The authority after `//`: user information, host and port, and the rest of the text. -/
def readAuthority (scheme : String) (special : Bool) (cs : List Char) :
    Except UrlError (String × Option String × String × Option Nat × List Char) := do
  let authority := cs.takeWhile fun c => !endsAuthority special c
  let ats := (authority.zipIdx.filter fun (c, _) => c == '@').map Prod.snd
  let (userinfo, hostPart) :=
    match ats.getLast? with
    | some i => (authority.take i, cs.drop (i + 1))
    | none => ([], cs)
  if ats.getLast? == some 0 then
    match hostPart with
    | c :: _ => if endsAuthority special c then throw .emptyHost
    | [] => pure ()
  let (host, afterHost) := hostSpan special false hostPart
  if host.isEmpty && (special || afterHost.head? == some ':') then throw .emptyHost
  let host ← if special then specialHost host else opaqueHost host
  let (port, rest) ←
    match afterHost with
    | ':' :: more => readUrlPort more
    | _ => pure (none, afterHost)
  let port := if port == defaultPort scheme then none else port
  let username := userinfo.takeWhile (· != ':')
  let password :=
    match userinfo.drop username.length with
    | ':' :: pw => if pw.isEmpty then none else some (String.ofList pw)
    | _ => none
  pure (String.ofList username, password, host, port, rest)

/-- The path, query and fragment after the authority. -/
def splitTail (cs : List Char) : String × Option String :=
  let beforeFragment := cs.takeWhile (· != '#')
  let path := beforeFragment.takeWhile (· != '?')
  match beforeFragment.drop path.length with
  | '?' :: q => (String.ofList path, some (String.ofList q))
  | _ => (String.ofList path, none)

/-- A path segment that stands for the segment itself: `.` or `%2e`. -/
def isSingleDot (segment : String) : Bool :=
  segment == "." || segment.toLower == "%2e"

/-- A path segment that stands for the segment above: `..` with either dot written `%2e`. -/
def isDoubleDot (segment : String) : Bool :=
  ["..", ".%2e", "%2e.", "%2e%2e"].contains segment.toLower

/-- The segments of a path after dot segments are resolved: `.` is dropped and `..` drops the
segment before it; either of them last leaves an empty last segment. -/
def resolveSegments : List String → List String → List String
  | acc, [] => acc
  | acc, [last] =>
    if isDoubleDot last then acc.dropLast ++ [""]
    else if isSingleDot last then acc ++ [""]
    else acc ++ [last]
  | acc, seg :: rest =>
    if isDoubleDot seg then resolveSegments acc.dropLast rest
    else if isSingleDot seg then resolveSegments acc rest
    else resolveSegments (acc ++ [seg]) rest

/-- **The path after an authority**, its dot segments resolved: empty stays empty (a special
scheme makes it `/`), otherwise the segments after the leading slash, split at `/` (and at `\`
under a special scheme). -/
def resolvePath (special : Bool) (path : String) : String :=
  match path.toList with
  | [] => if special then "/" else ""
  | _ :: rest =>
    let slashed := rest.map fun c => if special && c == '\\' then '/' else c
    let segments := (String.ofList slashed).splitOn "/"
    "/" ++ "/".intercalate (resolveSegments [] segments)

/-- A character dropped from the ends of a URL: a control character or a space. -/
def isEdgeJunk (c : Char) : Bool := c.toNat ≤ 0x20

/-- **Read an absolute URL.** -/
def Url.parse (s : String) : Except UrlError Url := do
  let cs := ((s.toList.dropWhile isEdgeJunk).reverse.dropWhile isEdgeJunk).reverse
  let cs := cs.filter fun c => c != '\t' && c != '\n' && c != '\r'
  match splitScheme cs with
  | none => throw .relativeWithoutBase
  | some (scheme, rest) =>
    let special := specialSchemes.contains scheme
    let slashes := rest.takeWhile fun c => c == '/' || (special && c == '\\')
    if special || slashes.length ≥ 2 then
      let afterSlashes := if special then rest.drop slashes.length else rest.drop 2
      let (user, pw, host, port, tail) ← readAuthority scheme special afterSlashes
      let (path, query) := splitTail tail
      pure ⟨scheme, user, pw, some host, port, resolvePath special path, query⟩
    else
      let (path, query) := splitTail rest
      pure ⟨scheme, "", none, none, none, path, query⟩

/-- One piece of a query, read as form data. -/
def formPiece (piece : String) : String :=
  decodeLossy (percentDecode (String.ofList (piece.toList.map fun c => if c == '+' then ' ' else c)))

/-- **The name-value pairs of the query**, in order. -/
def Url.queryPairs (u : Url) : List (String × String) :=
  match u.query with
  | none => []
  | some q =>
    ((q.splitOn "&").filter (· != "")).map fun piece =>
      let name := piece.toList.takeWhile (· != '=')
      let value := (piece.toList.drop name.length).drop 1
      (formPiece (String.ofList name), formPiece (String.ofList value))

end Net

end Backoffice
