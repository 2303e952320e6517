import Backoffice.Http.Request
import Backoffice.Http.MediaType
import Backoffice.Json.Record
import Backoffice.User.Accounts

/-! # Request bodies

The JSON bodies the API accepts, and why one is refused.

* **`BodyRejection`** — no JSON content type (`application/json`, or any `application` subtype
  with the suffix `+json`), text that is not JSON, or JSON of the wrong shape. The two last
  carry the reader's wording with its place and path.
* **`LoginBody`**, **`RefreshBody`**, **`CreateInput`**, **`UpdateInput`** — read by
  `readLogin`, `readRefresh`, `readCreate` and `readUpdate` from records whose keys are
  `username`/`password`, `refreshToken`, and the camel-case user fields. -/

namespace Backoffice

namespace Api

open Json

/-- **Why a request body was refused.** -/
inductive BodyRejection where
  | missingJsonContentType
  | notJson (detail : String)
  | wrongShape (detail : String)
  deriving DecidableEq, Repr

/-- The wording of a refused body. -/
def BodyRejection.message : BodyRejection → String
  | .missingJsonContentType => "Expected request with \x60Content-Type: application/json\x60"
  | .notJson d => "Failed to parse the request body as JSON: " ++ d
  | .wrongShape d => "Failed to deserialize the JSON body into the target type: " ++ d

/-- A refused body is invalid input. -/
def BodyRejection.toAppError (r : BodyRejection) : AppError := .invalidInput r.message

/-- **Whether a request declares a JSON body.** -/
def hasJsonContentType (req : Http.Request) : Bool :=
  match (req.header? "content-type").bind Http.headerText? with
  | some text => ((Http.MediaType.parse? text).map Http.MediaType.isJson).getD false
  | none => false

/-- **The fields of a JSON body** of the given shape. -/
def readFields (shape : RecordShape) (req : Http.Request) :
    Except BodyRejection (List (Option String)) :=
  if !hasJsonContentType req then .error .missingJsonContentType
  else
    match decodeRecord shape req.body with
    | .ok values => .ok values
    | .error e =>
      let detail := e.render req.body
      if e.error.fault.kind == .data then .error (.wrongShape detail) else .error (.notJson detail)

/-- The `i`-th field value, empty when absent. -/
def textAt (values : List (Option String)) (i : Nat) : String := (values.getD i none).getD ""

/-- **A sign-in body.** -/
structure LoginBody where
  username : String
  password : String
  deriving DecidableEq, Repr

/-- **A refresh body.** -/
structure RefreshBody where
  refreshToken : String
  deriving DecidableEq, Repr

/-- The shape of a sign-in body. -/
def loginShape : RecordShape :=
  ⟨"LoginPayload", [⟨"username", .required⟩, ⟨"password", .required⟩]⟩

/-- The shape of a refresh body. -/
def refreshShape : RecordShape := ⟨"RefreshPayload", [⟨"refreshToken", .required⟩]⟩

/-- The shape of a body that creates a user. -/
def createShape : RecordShape :=
  ⟨"CreateUserPayload", [⟨"username", .required⟩, ⟨"email", .required⟩,
    ⟨"firstName", .required⟩, ⟨"middleName", .optional⟩, ⟨"lastName", .required⟩,
    ⟨"password", .required⟩]⟩

/-- The shape of a body that updates a user. -/
def updateShape : RecordShape :=
  ⟨"UpdateUserPayload", [⟨"email", .required⟩, ⟨"firstName", .required⟩,
    ⟨"middleName", .optional⟩, ⟨"lastName", .required⟩, ⟨"password", .optional⟩]⟩

/-- **Read a sign-in body.** -/
def readLogin (req : Http.Request) : Except BodyRejection LoginBody :=
  (readFields loginShape req).map fun vs => ⟨textAt vs 0, textAt vs 1⟩

/-- **Read a refresh body.** -/
def readRefresh (req : Http.Request) : Except BodyRejection RefreshBody :=
  (readFields refreshShape req).map fun vs => ⟨textAt vs 0⟩

/-- **Read a body that creates a user.** -/
def readCreate (req : Http.Request) : Except BodyRejection CreateInput :=
  (readFields createShape req).map fun vs =>
    ⟨textAt vs 0, textAt vs 1, textAt vs 2, vs.getD 3 none, textAt vs 4, textAt vs 5⟩

/-- **Read a body that updates a user.** -/
def readUpdate (req : Http.Request) : Except BodyRejection UpdateInput :=
  (readFields updateShape req).map fun vs =>
    ⟨textAt vs 0, textAt vs 1, vs.getD 2 none, textAt vs 3, vs.getD 4 none⟩

end Api

end Backoffice
