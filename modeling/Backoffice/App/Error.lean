import Backoffice.Token.Error
import Backoffice.Store.Fault
import Backoffice.Http.Response

/-! # Application errors

The faults a request can end in, and how each is answered.

* **`AppError`** — a database fault, bad credentials, invalid input (with its reason), a missing
  record, refused authorization, or an internal fault.
* **`AppError.ofToken`**, **`ofIssue`**, **`ofRefresh`**, **`ofStoreFault`** — token faults are
  refused authorization; issuing faults are internal, with the issuing message; a store's
  missing row is `notFound`, a uniqueness violation is invalid input, and every other store
  fault is a database fault with a fixed message that hides the cause.
* **`AppError.response`** — the JSON answer: 500 for database and internal faults, 401 for bad
  credentials and refused authorization, 400 for invalid input, 404 for a missing record. The
  body carries the error code, and a message for invalid input and refused authorization; an
  unsupported algorithm is reported without naming it. -/

namespace Backoffice

/-- **A fault of a request.** -/
inductive AppError where
  | database (message : String)
  | invalidCredentials
  | invalidInput (message : String)
  | notFound
  | unauthorized (e : AuthError)
  | internal (message : String)
  deriving DecidableEq, Repr

/-- **Error codes** reported to clients. -/
inductive ErrorCode where
  | databaseError
  | invalidCredentials
  | invalidInput
  | notFound
  | missingAuthorization
  | malformedAuthorization
  | tokenMalformed
  | tokenUnsupportedAlgorithm
  | tokenBadSignature
  | tokenExpired
  | tokenClaimsMissing
  | internalError
  deriving DecidableEq, Repr

/-- The text of an error code. -/
def ErrorCode.text : ErrorCode → String
  | .databaseError => "DATABASE_ERROR"
  | .invalidCredentials => "INVALID_CREDENTIALS"
  | .invalidInput => "INVALID_INPUT"
  | .notFound => "NOT_FOUND"
  | .missingAuthorization => "MISSING_AUTHORIZATION"
  | .malformedAuthorization => "MALFORMED_AUTHORIZATION"
  | .tokenMalformed => "TOKEN_MALFORMED"
  | .tokenUnsupportedAlgorithm => "TOKEN_UNSUPPORTED_ALGORITHM"
  | .tokenBadSignature => "TOKEN_BAD_SIGNATURE"
  | .tokenExpired => "TOKEN_EXPIRED"
  | .tokenClaimsMissing => "TOKEN_CLAIMS_MISSING"
  | .internalError => "INTERNAL_ERROR"

/-- The code of a refused authorization. -/
def ErrorCode.ofAuth : AuthError → ErrorCode
  | .missingHeader => .missingAuthorization
  | .malformedHeader => .malformedAuthorization
  | .token .malformed => .tokenMalformed
  | .token (.unsupportedAlgorithm _) => .tokenUnsupportedAlgorithm
  | .token .badSignature => .tokenBadSignature
  | .token .expired => .tokenExpired
  | .token (.claimsMissing _) => .tokenClaimsMissing

namespace AppError

/-- The message of a fault; refused authorization shows the reason's own message. -/
def message : AppError → String
  | .database m => "Database error: " ++ m
  | .invalidCredentials => "Invalid credentials"
  | .invalidInput m => "Invalid input: " ++ m
  | .notFound => "Not found"
  | .unauthorized e => e.message
  | .internal m => "Internal error: " ++ m

/-- The diagnostic form of a fault. -/
def debugText : AppError → String
  | .database m => "Database(" ++ Text.quoted m ++ ")"
  | .invalidCredentials => "InvalidCredentials"
  | .invalidInput m => "InvalidInput(" ++ Text.quoted m ++ ")"
  | .notFound => "NotFound"
  | .unauthorized e => "Unauthorized(" ++ e.debugText ++ ")"
  | .internal m => "Internal(" ++ Text.quoted m ++ ")"

/-- A token fault refuses authorization. -/
def ofToken (e : TokenError) : AppError := .unauthorized (.token e)

/-- An issuing fault is internal. -/
def ofIssue (e : IssueError) : AppError := .internal e.message

/-- A refresh fault splits by its cause. -/
def ofRefresh : RefreshError → AppError
  | .token e => ofToken e
  | .issue e => ofIssue e

/-- The reason given for a record that would repeat a unique value. -/
def duplicateMessage : String := "A record with this value already exists"

/-- The message that stands for every other store fault. -/
def storeFailedMessage : String := "Database operation failed"

/-- **A store fault as an application fault.** -/
def ofStoreFault : StoreFault → AppError
  | .rowNotFound => .notFound
  | .database m =>
    if StoreFault.isUniqueViolation m then .invalidInput duplicateMessage
    else .database storeFailedMessage
  | _ => .database storeFailedMessage

/-- The message shown to clients for refused authorization. -/
def authMessage : AuthError → String
  | .token (.unsupportedAlgorithm _) => "Unsupported signing algorithm"
  | e => e.message

/-- A JSON error body: the code, and a message when there is one. -/
def body (code : ErrorCode) : Option String → JsonValue
  | some m => .object [("code", .string code.text), ("message", .string m)]
  | none => .object [("code", .string code.text)]

/-- **The answer to a fault.** -/
def response : AppError → Http.Response
  | .database _ => .json 500 (body .databaseError none)
  | .invalidCredentials => .json 401 (body .invalidCredentials none)
  | .invalidInput m => .json 400 (body .invalidInput (some m))
  | .notFound => .json 404 (body .notFound none)
  | .unauthorized e => .json 401 (body (ErrorCode.ofAuth e) (some (authMessage e)))
  | .internal _ => .json 500 (body .internalError none)

end AppError

end Backoffice
