import Backoffice.Crypto.Sha256

/-! # HMAC-SHA256

The keyed digest HMAC over SHA-256: a key longer than the 64-octet block is first
replaced by its digest, then padded with zeros to 64 octets; the digest of the key masked with
`0x36` and the message is digested again after the key masked with `0x5C`. -/

namespace Backoffice

/-- The key as one 64-octet block. -/
def hmacBlockKey (key : List UInt8) : List UInt8 :=
  let k := if key.length > 64 then Sha256.digest key else key
  k ++ List.replicate (64 - k.length) 0

/-- **HMAC-SHA256 of `msg` under `key`**: 32 octets. -/
def hmacSha256 (key msg : List UInt8) : List UInt8 :=
  let k := hmacBlockKey key
  let inner := Sha256.digest (k.map (· ^^^ 0x36) ++ msg)
  Sha256.digest (k.map (· ^^^ 0x5C) ++ inner)

end Backoffice
