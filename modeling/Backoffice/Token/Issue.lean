import Backoffice.Token.Compact
import Backoffice.Token.Policy

/-! # Issuing and refreshing token pairs

* **`Instant`** — a moment as nanoseconds since the Unix epoch; its Unix second rounds toward
  negative infinity.
* **`TokenIssuer.issueAt`** — an access and a refresh token for an identity, both issued at the
  current Unix second and expiring after the policy's whole seconds. The empty identity is
  refused; any other (a blank one included) is accepted.
* **`TokenService`** — a verifying key and an issuer built from one secret and a policy;
  `refreshAt` verifies a refresh token and issues a new pair for its identity, under the
  service's policy. -/

namespace Backoffice

/-- **A moment**, in nanoseconds since the Unix epoch. -/
structure Instant where
  nanos : Int
  deriving DecidableEq, Repr

namespace Instant

/-- The moment `seconds` and `nanos` after the epoch (either may be negative). -/
def ofParts (seconds nanos : Int) : Instant := ⟨seconds * 1000000000 + nanos⟩

/-- **The Unix second of a moment**, rounded toward negative infinity. -/
def unixSecond (t : Instant) : Int := t.nanos.fdiv 1000000000

example : (ofParts 5 (-1)).unixSecond = 4 := by decide
example : (ofParts (-1) 500000000).unixSecond = -1 := by decide

end Instant

/-- **An access token and a refresh token** issued together. -/
structure TokenPair where
  access : String
  refresh : String
  deriving DecidableEq, Repr

/-- The diagnostic form of a pair: the tokens themselves are never shown. -/
def TokenPair.debugText (p : TokenPair) : String :=
  "TokenPair \x7b access_token: " ++ SigningKey.tokenDebugText p.access ++ ", refresh_token: " ++
    SigningKey.tokenDebugText p.refresh ++ " \x7d"

/-- **An issuer**: a signing key and a policy. -/
structure TokenIssuer where
  key : SigningKey
  policy : TokenPolicy

namespace TokenIssuer

/-- The claims of one token of a pair. -/
def claimsFor (i : TokenIssuer) (identity : String) (issuedAt : Int) (ttl : Duration) : Claims :=
  Claims.forIdentity identity i.policy.issuer i.policy.audience issuedAt
    (issuedAt + ttl.wholeSeconds)

/-- **A token pair for `identity` issued at second `now`.** -/
def issueAt (i : TokenIssuer) (identity : String) (now : Int) : Except IssueError TokenPair :=
  if identity.isEmpty then .error .emptyIdentity
  else
    .ok ⟨i.key.sign (i.claimsFor identity now i.policy.accessTtl),
      i.key.sign (i.claimsFor identity now i.policy.refreshTtl)⟩

end TokenIssuer

/-- **A token service**: a verifying key and an issuer sharing one secret. -/
structure TokenService where
  verifier : SigningKey
  issuer : TokenIssuer

namespace TokenService

/-- **A service from a secret and a policy**; a blank secret is refused. -/
def make (secret : List UInt8) (policy : TokenPolicy) : Except ConfigError TokenService := do
  let verifier ← SigningKey.make secret
  let signer ← SigningKey.make secret
  pure ⟨verifier, ⟨signer, policy⟩⟩

/-- The service's policy. -/
def policy (s : TokenService) : TokenPolicy := s.issuer.policy

/-- Claims of a token at second `now`. -/
def verifyAt (s : TokenService) (token : String) (now : Int) : Except TokenError Claims :=
  s.verifier.verifyAt token now

/-- A pair for an identity at second `now`. -/
def issueAt (s : TokenService) (identity : String) (now : Int) : Except IssueError TokenPair :=
  s.issuer.issueAt identity now

end TokenService

/-- **Refresh**: verify the refresh token with `verifier`, then issue a new pair for its
identity with `issuer`, both at second `now`. -/
def refreshAt (verifier : SigningKey) (issuer : TokenIssuer) (token : String) (now : Int) :
    Except RefreshError TokenPair :=
  match verifier.verifyAt token now with
  | .error e => .error (.token e)
  | .ok claims =>
    match issuer.issueAt claims.identity now with
    | .error e => .error (.issue e)
    | .ok pair => .ok pair

end Backoffice
