import Backoffice.Token.Error
import Backoffice.Text.Quoted

/-! # Token policy

Who issues tokens, for whom, and for how long.

* **`Duration`** — a span of time in nanoseconds; its whole seconds are truncated toward zero
  and its sub-second part keeps the sign of the span.
* **`TokenPolicy.make`** — a policy from its four parts, checked in this order: the access
  window has at least one whole second, then the refresh window; the access window is at most
  `maxTtl` (100 years of 365 days, compared to the nanosecond), then the refresh window.
* **`TokenPolicy.default`** — issuer `flexio-backend`, audience `flexio-admin`, one year of
  access and two of refresh. -/

namespace Backoffice

/-- **A span of time**, in nanoseconds. -/
structure Duration where
  nanos : Int
  deriving DecidableEq, Repr

namespace Duration

/-- Nanoseconds in a second. -/
def nanosPerSecond : Int := 1000000000

/-- A span of whole seconds. -/
def ofSeconds (s : Int) : Duration := ⟨s * nanosPerSecond⟩

/-- A span of seconds and nanoseconds. -/
def ofParts (s n : Int) : Duration := ⟨s * nanosPerSecond + n⟩

/-- **Whole seconds**, truncated toward zero. -/
def wholeSeconds (d : Duration) : Int := d.nanos.tdiv nanosPerSecond

/-- **The nanoseconds beyond the whole seconds**, with the sign of the span. -/
def subsecNanos (d : Duration) : Int := d.nanos.tmod nanosPerSecond

/-- The diagnostic form of a span. -/
def debugText (d : Duration) : String :=
  "SignedDuration \x7b seconds: " ++ toString d.wholeSeconds ++ ", nanoseconds: " ++
    toString d.subsecNanos ++ " \x7d"

example : (ofParts 0 999999999).wholeSeconds = 0 := by decide
example : (ofParts 5 (-1)).wholeSeconds = 4 := by decide

end Duration

/-- **A token policy**: issuer and audience names and the two validity windows. -/
structure TokenPolicy where
  issuer : String
  audience : String
  accessTtl : Duration
  refreshTtl : Duration
  deriving DecidableEq, Repr

namespace TokenPolicy

/-- The longest validity window: 100 years of 365 days. -/
def maxTtl : Duration := Duration.ofSeconds (100 * 365 * 24 * 60 * 60)

/-- The issuer name used when none is configured. -/
def defaultIssuer : String := "flexio-backend"

/-- The audience name used when none is configured. -/
def defaultAudience : String := "flexio-admin"

/-- **The default policy**: one year of access, two years of refresh. -/
def default : TokenPolicy :=
  ⟨defaultIssuer, defaultAudience, Duration.ofSeconds (365 * 86400),
    Duration.ofSeconds (730 * 86400)⟩

/-- **A checked policy.** -/
def make (issuer audience : String) (accessTtl refreshTtl : Duration) :
    Except ConfigError TokenPolicy :=
  if accessTtl.wholeSeconds ≤ 0 then .error (.nonPositiveTtl .access)
  else if refreshTtl.wholeSeconds ≤ 0 then .error (.nonPositiveTtl .refresh)
  else if accessTtl.nanos > maxTtl.nanos then .error (.excessiveTtl .access)
  else if refreshTtl.nanos > maxTtl.nanos then .error (.excessiveTtl .refresh)
  else .ok ⟨issuer, audience, accessTtl, refreshTtl⟩

/-- The diagnostic form of a policy. -/
def debugText (p : TokenPolicy) : String :=
  "TokenPolicy \x7b issuer: " ++ Text.quoted p.issuer ++ ", audience: " ++ Text.quoted p.audience ++
    ", access_ttl: " ++ p.accessTtl.debugText ++ ", refresh_ttl: " ++ p.refreshTtl.debugText ++
    " \x7d"

end TokenPolicy

end Backoffice
