import Backoffice.Token.Error
import Backoffice.Json.Value
import Backoffice.Text.Quoted

/-! # Claims

What a token asserts: who it is for (`identity`, also the `subject`), who issued it and for
whom (`issuer`, `audience`), and when it was issued and expires, in whole seconds since the
Unix epoch.

* **`Claims.toClaimSet`** — the claim set, members `aud`, `exp`, `iat`, `identity`, `iss`,
  `sub` in this (sorted) order.
* **`Claims.ofClaimSet`** — claims read back from a claim set. `identity`, `iss` and `sub` must
  be strings, `identity` not empty; `aud` a string or an array of exactly one string; `iat` and
  `exp` whole numbers within signed 64 bits. The first claim that fails is named, in that
  order; other members are ignored.
* **`Claims.lifetime`** — `exp - iat`, wrapping around in signed 64 bits. -/

namespace Backoffice

/-- **The claims of a token.** -/
structure Claims where
  identity : String
  issuer : String
  subject : String
  audience : String
  issuedAt : Int
  expiresAt : Int
  deriving DecidableEq, Repr

/-- `x` wrapped into signed 64 bits. -/
def wrapInt64 (x : Int) : Int := (x + Int.pow 2 63) % Int.pow 2 64 - Int.pow 2 63

namespace Claims

/-- Claims whose subject is their identity. -/
def forIdentity (identity issuer audience : String) (issuedAt expiresAt : Int) : Claims :=
  ⟨identity, issuer, identity, audience, issuedAt, expiresAt⟩

/-- **Seconds between issue and expiry**, wrapping in signed 64 bits. -/
def lifetime (c : Claims) : Int := wrapInt64 (c.expiresAt - c.issuedAt)

/-- **The claim set of the claims**, members sorted by name. -/
def toClaimSet (c : Claims) : List (String × JsonValue) :=
  [("aud", .string c.audience), ("exp", .number (JsonNumber.ofInt c.expiresAt)),
   ("iat", .number (JsonNumber.ofInt c.issuedAt)), ("identity", .string c.identity),
   ("iss", .string c.issuer), ("sub", .string c.subject)]

/-- The string claim `name`, or the fault naming it. -/
def stringClaim (set : List (String × JsonValue)) (name : String) : Except TokenError String :=
  match JsonValue.lookup name set with
  | some (.string s) => .ok s
  | _ => .error (.claimsMissing name)

/-- **The whole-number claim `name`** within signed 64 bits, or the fault naming it. -/
def timeClaim (set : List (String × JsonValue)) (name : String) : Except TokenError Int :=
  match JsonValue.lookup name set with
  | some (.number n) =>
    match n.toInt64? with
    | some i => .ok i
    | none => .error (.claimsMissing name)
  | _ => .error (.claimsMissing name)

/-- The audience: a string, or an array holding exactly one string. -/
def audienceClaim (set : List (String × JsonValue)) : Except TokenError String :=
  match JsonValue.lookup "aud" set with
  | some (.string s) => .ok s
  | some (.array [.string s]) => .ok s
  | _ => .error (.claimsMissing "aud")

/-- **Claims read back from a claim set.** -/
def ofClaimSet (set : List (String × JsonValue)) : Except TokenError Claims := do
  let identity ← stringClaim set "identity"
  if identity.isEmpty then throw (.claimsMissing "identity")
  let issuer ← stringClaim set "iss"
  let subject ← stringClaim set "sub"
  let audience ← audienceClaim set
  let issuedAt ← timeClaim set "iat"
  let expiresAt ← timeClaim set "exp"
  pure ⟨identity, issuer, subject, audience, issuedAt, expiresAt⟩

/-- The diagnostic form of claims. -/
def debugText (c : Claims) : String :=
  "Claims \x7b identity: " ++ Text.quoted c.identity ++ ", issuer: " ++ Text.quoted c.issuer ++
    ", subject: " ++ Text.quoted c.subject ++ ", audience: " ++ Text.quoted c.audience ++
    ", issued_at: " ++ toString c.issuedAt ++ ", expires_at: " ++ toString c.expiresAt ++ " \x7d"

end Claims

end Backoffice
