import Backoffice.Token.Issue
import Backoffice.Net.Address
import Backoffice.Text.Integer
import Backoffice.Text.WhiteSpace

/-! # Service configuration

The settings of the service, read from its environment variables.

* **`Environment`** — the variables that are set, by name.
* **`StartupFailure`** — how starting the service stops: an abort with a message, or an error
  reported to the caller.
* **`AppConfig.ofEnvironment`** — the settings. Variables are read in this order, each absent
  one taking its default: the signing secret (empty), the access window in seconds (one year),
  the refresh window in days (730), issuer and audience, the database locator (required),
  the pool size (5), the listening address (`127.0.0.1:8080`), the allowed CORS origin
  (`http://localhost:1234`, which must be a valid header value), the password hashing cost
  (12) and the log file (absent when blank). A number that does not read aborts at once; an
  invalid origin is an error at once; a refresh window whose seconds overflow 64 bits is an
  error only after every variable has been read.
* **`AppConfig.tokenPolicy`**, **`AppConfig.tokenService`** — the token policy, and the token
  service built from the policy and then the secret. -/

namespace Backoffice

/-- **The environment**: variable names and their values. -/
abbrev Environment := List (String × String)

/-- **How starting the service stops.** -/
inductive StartupFailure where
  | abort (message : String)
  | error (message : String)
  deriving DecidableEq, Repr

/-- **The service settings.** -/
structure AppConfig where
  secret : String
  accessTtl : Duration
  refreshTtl : Duration
  issuer : String
  audience : String
  databaseUrl : String
  maxConnections : Nat
  bindAddress : Net.SocketAddress
  corsOrigin : String
  bcryptCost : Nat
  logFile : Option String
  deriving DecidableEq, Repr

namespace AppConfig

/-- The abort for a variable whose value does not read. -/
def unreadable (name : String) : StartupFailure :=
  .abort ("Unable to parse env variable " ++ name)

/-- **A variable read by `parse`**, or `default` when it is not set. -/
def setting {α : Type} (env : Environment) (name : String) (default : α)
    (parse : String → Option α) : Except StartupFailure α :=
  match env.lookup name with
  | none => .ok default
  | some v =>
    match parse v with
    | some a => .ok a
    | none => .error (unreadable name)

/-- A character allowed in a header value: a tab, or any but the control characters. -/
def isHeaderValueChar (c : Char) : Bool := c == '\t' || (c.toNat ≥ 0x20 && c.toNat != 0x7F)

/-- The largest signed 64-bit integer. -/
def int64Max : Int := 9223372036854775807

/-- Seconds in a day. -/
def secondsPerDay : Int := 86400

/-- **The variables the settings are read from.** -/
def variableNames : List String :=
  ["JWT_SECRET", "ACCESS_TOKEN_TTL_SECS", "REFRESH_TOKEN_TTL_DAYS", "JWT_ISSUER", "JWT_AUDIENCE",
    "DATABASE_URL", "DATABASE_MAX_CONNECTIONS", "BIND_ADDR", "CORS_ORIGIN", "BCRYPT_COST",
    "LOG_FILE_PATH"]

/-- **Read the settings** from the environment. -/
def ofEnvironment (env : Environment) : Except StartupFailure AppConfig := do
  let secret := (env.lookup "JWT_SECRET").getD ""
  let signed := fun s => (Text.readSigned 64 s).toOption
  let unsigned := fun s => (Text.readUnsigned 32 s).toOption
  let accessSeconds ← setting env "ACCESS_TOKEN_TTL_SECS" 31536000 signed
  let refreshDays ← setting env "REFRESH_TOKEN_TTL_DAYS" 730 signed
  let issuer ← setting env "JWT_ISSUER" TokenPolicy.defaultIssuer some
  let audience ← setting env "JWT_AUDIENCE" TokenPolicy.defaultAudience some
  let databaseUrl ←
    match env.lookup "DATABASE_URL" with
    | some v => pure v
    | none => throw (.abort "Cannot get the DATABASE_URL env variable")
  let maxConnections ← setting env "DATABASE_MAX_CONNECTIONS" 5 unsigned
  let bindAddress ← setting env "BIND_ADDR" Net.SocketAddress.localDefault
    Net.SocketAddress.parse?
  let corsOrigin ← setting env "CORS_ORIGIN" "http://localhost:1234" some
  if !corsOrigin.toList.all isHeaderValueChar then
    throw (.error "CORS_ORIGIN must be a valid header value: failed to parse header value")
  let bcryptCost ← setting env "BCRYPT_COST" 12 unsigned
  let logFile := (env.lookup "LOG_FILE_PATH").filter fun p => !(Text.trimWhiteSpace p).isEmpty
  let refreshSeconds := refreshDays * secondsPerDay
  if refreshSeconds > int64Max || refreshSeconds < -int64Max - 1 then
    throw (.error ("REFRESH_TOKEN_TTL_DAYS is out of range: " ++ toString refreshDays))
  pure ⟨secret, Duration.ofSeconds accessSeconds, Duration.ofSeconds refreshSeconds, issuer,
    audience, databaseUrl, maxConnections, bindAddress, corsOrigin, bcryptCost, logFile⟩

/-- **The token policy** of the settings. -/
def tokenPolicy (c : AppConfig) : Except ConfigError TokenPolicy :=
  TokenPolicy.make c.issuer c.audience c.accessTtl c.refreshTtl

/-- **The token service** of the settings: the policy is checked before the secret. -/
def tokenService (c : AppConfig) : Except ConfigError TokenService := do
  let policy ← c.tokenPolicy
  TokenService.make c.secret.toUTF8.toList policy

end AppConfig

end Backoffice
