import Backoffice.Api.Route
import Backoffice.Api.Payload
import Backoffice.Api.Envelope
import Backoffice.Net.Url
import Backoffice.Token.Bearer

/-! # The back office HTTP service

How one request is answered, and the service state it may change.

* **`Service.identify`** — the gate of the endpoints that need a signed-in caller: the
  `Authorization` header must be visible ASCII (a tab allowed), carry a bearer token, and the
  token must verify now. It runs before the path segment and the body are read.
* **`Service.perform`** — one action: sign-in (the user name trimmed; user name and password
  required), refresh (a token required), the caller's identity, sign-out, and listing,
  creating (201), reading, updating and deleting (204) users. A user path segment is
  percent-decoded and read as a UUID in any of its written forms.
* **`Service.respond`** — the whole answer. A path that names no endpoint is 404; an `OPTIONS`
  request is a CORS preflight; a method the endpoint does not answer is 405 once the gate, if
  any, has identified the caller. Answers at an endpoint have their length, a `HEAD` answer has
  no body, and a preflight or 405 lists the allowed methods. Every answer carries the CORS
  headers for the configured origin and forbids sniffing and framing. -/

namespace Backoffice

namespace Api

/-- **The service**: the user directory and the origin allowed by CORS. -/
structure Service where
  directory : Directory
  corsOrigin : String

/-- The methods a preflight allows. -/
def preflightMethods : String := "GET,POST"

/-- The request headers a preflight allows. -/
def preflightHeaders : String := "content-type,authorization"

/-- The request headers an answer varies on. -/
def varyText : String := "origin, access-control-request-method, access-control-request-headers"

/-- A plain text answer. -/
def textResponse (status : Nat) (text : String) : Http.Response :=
  ⟨status, [("content-type", "text/plain; charset=utf-8")], text.toUTF8.toList⟩

/-- **The user id of a path segment**: percent-decoded, UTF-8, and a UUID. -/
def userIdOf (segment : String) : Except AppError Uuid :=
  let octets := Net.percentDecode segment
  match (String.fromUTF8? ⟨octets.toArray⟩).bind Uuid.parse? with
  | some id => .ok id
  | none => .error (.invalidInput "Invalid user ID")

namespace Service

/-- **The gate**: the identity of the caller at second `now`. -/
def identify (s : Service) (now : Int) (req : Http.Request) : Except AppError String := do
  let header ← match req.header? "authorization" with
    | none => pure none
    | some value =>
      match Http.headerText? value with
      | some text => pure (some text)
      | none => throw (.unauthorized .malformedHeader)
  let token ← (extractBearer header).mapError .unauthorized
  let claims ← (s.directory.tokens.verifyAt token now).mapError AppError.ofToken
  pure claims.identity

/-- The service with another directory. -/
def withDirectory (s : Service) (d : Directory) : Service := ⟨d, s.corsOrigin⟩

/-- **Perform an action** at second `now` for the caller `actor`. -/
def perform (s : Service) (now : Int) (actor : String) (req : Http.Request) :
    Action → Except AppError (Http.Response × Service)
  | .health => pure (textResponse 200 "OK", s)
  | .login => do
    let body ← (readLogin req).mapError BodyRejection.toAppError
    let username := Text.trimWhiteSpace body.username
    if username.isEmpty || body.password.isEmpty then
      throw (.invalidInput "Username and password are required")
    let pair ← s.directory.login username body.password now
    pure (.json 200 (success (tokenView pair)), s)
  | .refresh => do
    let body ← (readRefresh req).mapError BodyRejection.toAppError
    if body.refreshToken.isEmpty then throw (.invalidInput "Refresh token is required")
    let pair ← s.directory.refresh body.refreshToken now
    pure (.json 200 (success (tokenView pair)), s)
  | .userInfo => do
    let profile ← s.directory.userInfo actor
    pure (.json 200 (success (identityView profile)), s)
  | .logout => pure (.json 200 (notice "logout successful"), s)
  | .listUsers => do
    let users ← s.directory.listUsers
    pure (.json 200 (success (.array (users.map userView))), s)
  | .createUser => do
    let input ← (readCreate req).mapError BodyRejection.toAppError
    let (profile, d) ← s.directory.createUser actor input
    pure (.json 201 (success (userView profile)), s.withDirectory d)
  | .getUser segment => do
    let id ← userIdOf segment
    let profile ← s.directory.getUser id
    pure (.json 200 (success (userView profile)), s)
  | .updateUser segment => do
    let id ← userIdOf segment
    let input ← (readUpdate req).mapError BodyRejection.toAppError
    let (profile, d) ← s.directory.updateUser actor id input
    pure (.json 200 (success (userView profile)), s.withDirectory d)
  | .deleteUser segment => do
    let id ← userIdOf segment
    let d ← s.directory.deleteUser id
    pure (Http.Response.empty 204, s.withDirectory d)

/-- **Answer an action at an endpoint**, through the gate when the endpoint has one; a fault
is answered as such. -/
def serve (s : Service) (now : Int) (e : Endpoint) (a : Action) (req : Http.Request) :
    Http.Response × Service :=
  let identified := if e.isGated then s.identify now req else .ok ""
  match identified >>= fun actor => s.perform now actor req a with
  | .ok result => result
  | .error err => (err.response, s)

/-- **Refuse a method** an endpoint does not answer, once its gate, if any, lets the caller in. -/
def refuseMethod (s : Service) (now : Int) (e : Endpoint) (req : Http.Request) : Http.Response :=
  match (if e.isGated then s.identify now req else .ok "") with
  | .ok _ => Http.Response.empty 405
  | .error err => err.response

/-- **The CORS preflight answer.** -/
def preflight (s : Service) : Http.Response :=
  ⟨200, [("access-control-allow-origin", s.corsOrigin),
    ("access-control-allow-credentials", "true"),
    ("access-control-allow-methods", preflightMethods),
    ("access-control-allow-headers", preflightHeaders), ("vary", varyText)], []⟩

/-- The CORS headers of an answer that is not a preflight. -/
def withCors (s : Service) (r : Http.Response) : Http.Response :=
  { r with headers := r.headers ++ [("access-control-allow-origin", s.corsOrigin),
    ("access-control-allow-credentials", "true"), ("vary", varyText)] }

/-- The headers that forbid sniffing and framing, unless already set. -/
def withGuards (r : Http.Response) : Http.Response :=
  (r.defaultHeader "x-content-type-options" "nosniff").defaultHeader "x-frame-options" "DENY"

/-- The finish of an answer at an endpoint: its length, the body dropped for `HEAD`, and the
allowed methods when given. -/
def finishAt (m : Method) (allow : Option String) (r : Http.Response) : Http.Response :=
  let r := r.defaultHeader "content-length" (toString r.body.length)
  let r := if m == .head then { r with body := [] } else r
  match allow with
  | some text => r.defaultHeader "allow" text
  | none => r

/-- **Answer a request** at second `now`. -/
def respond (s : Service) (now : Int) (req : Http.Request) : Http.Response × Service :=
  let m := Method.ofName req.method
  match Endpoint.ofPath? req.route with
  | none =>
    let r := if m == .options then s.preflight else s.withCors (Http.Response.empty 404)
    (withGuards r, s)
  | some e =>
    if m == .options then (finishAt m (some e.allowText) (withGuards s.preflight), s)
    else
      match e.action? m with
      | some a =>
        let (r, s') := s.serve now e a req
        (finishAt m none (withGuards (s.withCors r)), s')
      | none =>
        (finishAt m (some e.allowText) (withGuards (s.withCors (s.refuseMethod now e req))), s)

end Service

end Api

end Backoffice
