import Backoffice.Token.Claims
import Backoffice.Crypto.Hmac
import Backoffice.Codec.Base64
import Backoffice.Json.Reader
import Backoffice.Json.Record
import Backoffice.Json.Writer

/-! # Signed tokens in compact form

A token is `header.claims.signature`: the Base64url (unpadded) of the header JSON
`{"typ":"JWT","alg":"HS256"}`, of the compact claim set, and of the HMAC-SHA256 of the first two
parts joined by a dot.

* **`SigningKey.make`** — a key from secret octets; a secret of only ASCII blank octets (space,
  tab, newline, form feed, carriage return) is refused.
* **`SigningKey.sign`** — the token of some claims.
* **`SigningKey.verifyAt`** — claims of a token at second `now`, checked in this order: three
  parts, the first two not empty, the signature of URL-safe symbols only (possibly empty); the
  header decodes to JSON with a string `alg` (other members skipped); the claims decode to a
  JSON object; `alg` is `HS256`; the signature is, as text, the one computed over the token's
  octets up to the end of the claims part (`signingInput`); `exp` is a whole number and
  `now < exp`; then the claims themselves. -/

namespace Backoffice

/-- **A signing key**: secret octets that are not all blank. -/
structure SigningKey where
  octets : List UInt8

/-- Whether an octet is ASCII blank: space, tab, newline, form feed or carriage return. -/
def isAsciiBlank (b : UInt8) : Bool :=
  b == 0x20 || b == 0x09 || b == 0x0A || b == 0x0C || b == 0x0D

namespace SigningKey

/-- **A key from a secret**, refused when every octet is blank. -/
def make (secret : List UInt8) : Except ConfigError SigningKey :=
  if secret.all isAsciiBlank then .error .emptySecret else .ok ⟨secret⟩

/-- The header of every token. -/
def headerText : String := "\x7b\"typ\":\"JWT\",\"alg\":\"HS256\"\x7d"

/-- The one signing algorithm. -/
def algorithm : String := "HS256"

/-- Base64url of octets. -/
def b64 (bs : List UInt8) : String := Base64.encode .url bs

/-- The signature text of a signing input. -/
def signatureOf (k : SigningKey) (input : String) : String :=
  b64 (hmacSha256 k.octets input.toUTF8.toList)

/-- **The token of some claims.** -/
def sign (k : SigningKey) (c : Claims) : String :=
  let input := b64 headerText.toUTF8.toList ++ "." ++
    b64 (JsonValue.object c.toClaimSet).render.toUTF8.toList
  input ++ "." ++ k.signatureOf input

/-- The diagnostic form of a signed token: holding the token is holding the credential, so the
token itself is never shown. -/
def tokenDebugText (_token : String) : String := "SignedToken(<redacted>)"

/-- Whether a character may appear in a signature: ASCII letters and digits, `-` and `_`. -/
def isUrlSymbol (ch : Char) : Bool := ch.isAlphanum || ch == '-' || ch == '_'

/-- The shape of a token header: only `alg` is read. -/
def headerShape : Json.RecordShape := ⟨"RawHeader", [⟨"alg", .required⟩]⟩

/-- **The dot-separated parts of a token**, empty parts included. -/
def parts (token : String) : List String := (token.split '.').toList.map String.Slice.copy

/-- The parts of a token are the runs of its characters between dots. -/
theorem parts_eq (token : String) : parts token = (token.toList.splitOn '.').map String.ofList :=
  String.toList_split_char

/-- Decoded octets of a token part, or `malformed`. -/
def partOctets (part : String) : Except TokenError (List UInt8) :=
  match Base64.decode .url part.toUTF8.toList with
  | .ok bs => .ok bs
  | .error _ => .error .malformed

/-- The algorithm named in a header part. -/
def headerAlgorithm (part : String) : Except TokenError String := do
  let bs ← partOctets part
  match Json.decodeRecord headerShape bs with
  | .ok [some alg] => pure alg
  | _ => throw .malformed

/-- The claim set of a claims part. -/
def claimSet (part : String) : Except TokenError (List (String × JsonValue)) := do
  let bs ← partOctets part
  match Json.parseValue bs with
  | .ok (.object fs) => pure fs
  | _ => throw .malformed

/-- The octet offset that ends a token's signing input: past its header part, a dot and its
claims part. -/
def signingEnd (h c : String) : String.Pos.Raw := ⟨h.utf8ByteSize + 1 + c.utf8ByteSize⟩

/-- **The signing input cut from a token** with header part `h` and claims part `c`: its octets
up to `signingEnd h c`. The cut panics where that offset is not a character boundary of the
token. -/
def signingInput (token h c : String) : String :=
  (token.sliceTo (token.pos! (signingEnd h c))).copy

/-- **The claims of a token at second `now`.** -/
def verifyAt (k : SigningKey) (token : String) (now : Int) : Except TokenError Claims := do
  let (h, c, s) ← match parts token with
    | [h, c, s] =>
      if h ≠ "" ∧ c ≠ "" ∧ s.toList.all isUrlSymbol then pure (h, c, s) else throw .malformed
    | _ => throw .malformed
  let alg ← headerAlgorithm h
  let set ← claimSet c
  if alg ≠ algorithm then throw (.unsupportedAlgorithm alg)
  if s ≠ k.signatureOf (signingInput token h c) then throw .badSignature
  let exp ← Claims.timeClaim set "exp"
  if now ≥ exp then throw .expired
  Claims.ofClaimSet set

end SigningKey

end Backoffice
