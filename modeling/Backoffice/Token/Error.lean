import Backoffice.Text.Quoted

/-! # Why tokens are refused

The faults of the token layer, each with its message and its diagnostic form (constructor
name, payload quoted).

* **`ConfigError`** — a blank signing secret, or a validity window that is not positive or
  exceeds the maximum.
* **`TokenError`** — a token that cannot be read, is signed with another algorithm or key, has
  expired, or lacks a claim.
* **`AuthError`** — an `Authorization` header that is missing or not `Bearer <token>`, or the
  token's own fault (whose message it shows as is).
* **`IssueError`**, **`RefreshError`** — issuing for an empty identity or failing to sign; a
  refresh fails with the fault of either step. -/

namespace Backoffice

/-- The two validity windows of a token pair. -/
inductive TtlWindow where
  | access
  | refresh
  deriving DecidableEq, Repr

/-- The name of a window. -/
def TtlWindow.name : TtlWindow → String
  | .access => "access"
  | .refresh => "refresh"

/-- **A fault in token configuration.** -/
inductive ConfigError where
  | emptySecret
  | nonPositiveTtl (window : TtlWindow)
  | excessiveTtl (window : TtlWindow)
  deriving DecidableEq, Repr

/-- The message of a configuration fault. -/
def ConfigError.message : ConfigError → String
  | .emptySecret => "Signing secret must not be empty"
  | .nonPositiveTtl w => "Token validity window must be positive: " ++ w.name
  | .excessiveTtl w => "Token validity window exceeds the maximum: " ++ w.name

/-- The diagnostic form of a configuration fault. -/
def ConfigError.debugText : ConfigError → String
  | .emptySecret => "EmptySecret"
  | .nonPositiveTtl w => "NonPositiveTtl(" ++ Text.quoted w.name ++ ")"
  | .excessiveTtl w => "ExcessiveTtl(" ++ Text.quoted w.name ++ ")"

/-- **Why a token is refused.** -/
inductive TokenError where
  | malformed
  | unsupportedAlgorithm (alg : String)
  | badSignature
  | expired
  | claimsMissing (claim : String)
  deriving DecidableEq, Repr

/-- The message of a token fault. -/
def TokenError.message : TokenError → String
  | .malformed => "Token is malformed"
  | .unsupportedAlgorithm alg => "Unsupported signing algorithm: " ++ alg
  | .badSignature => "Token signature is invalid"
  | .expired => "Token has expired"
  | .claimsMissing c => "Missing required claim: " ++ c

/-- The diagnostic form of a token fault. -/
def TokenError.debugText : TokenError → String
  | .malformed => "Malformed"
  | .unsupportedAlgorithm alg => "UnsupportedAlgorithm(" ++ Text.quoted alg ++ ")"
  | .badSignature => "BadSignature"
  | .expired => "Expired"
  | .claimsMissing c => "ClaimsMissing(" ++ Text.quoted c ++ ")"

/-- **Why a request's credentials are refused.** -/
inductive AuthError where
  | missingHeader
  | malformedHeader
  | token (e : TokenError)
  deriving DecidableEq, Repr

/-- The message of a credentials fault; a token fault shows its own. -/
def AuthError.message : AuthError → String
  | .missingHeader => "Authorization header is missing"
  | .malformedHeader => "Invalid token format"
  | .token e => e.message

/-- The diagnostic form of a credentials fault. -/
def AuthError.debugText : AuthError → String
  | .missingHeader => "MissingHeader"
  | .malformedHeader => "MalformedHeader"
  | .token e => "Token(" ++ e.debugText ++ ")"

/-- Why signing failed. Signing a claim set with a valid key cannot fail; the one cause is kept
so that the fault can be shown. -/
inductive SigningFault where
  | invalidToken
  deriving DecidableEq, Repr

/-- The name of a signing fault. -/
def SigningFault.name : SigningFault → String
  | .invalidToken => "InvalidToken"

/-- **Why a token pair was not issued.** -/
inductive IssueError where
  | emptyIdentity
  | signing (cause : SigningFault)
  deriving DecidableEq, Repr

/-- The message of an issuing fault. -/
def IssueError.message : IssueError → String
  | .emptyIdentity => "Cannot issue a token for an empty identity"
  | .signing c => "Token signing failed: " ++ c.name

/-- The diagnostic form of an issuing fault. -/
def IssueError.debugText : IssueError → String
  | .emptyIdentity => "EmptyIdentity"
  | .signing c => "Signing(Error(" ++ c.name ++ "))"

/-- **Why a refresh failed**: the presented token, or issuing the new pair. -/
inductive RefreshError where
  | token (e : TokenError)
  | issue (e : IssueError)
  deriving DecidableEq, Repr

/-- The message of a refresh fault: that of the step that failed. -/
def RefreshError.message : RefreshError → String
  | .token e => e.message
  | .issue e => e.message

/-- The diagnostic form of a refresh fault. -/
def RefreshError.debugText : RefreshError → String
  | .token e => "Token(" ++ e.debugText ++ ")"
  | .issue e => "Issue(" ++ e.debugText ++ ")"

end Backoffice
