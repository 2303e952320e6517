import Backoffice.Json.Value
import Backoffice.User.Profile
import Backoffice.Token.Issue

/-! # Answer bodies

The JSON bodies of successful answers.

* **`success`** — `{"code":"0000","msg":"success","data":…}`; **`notice`** leaves out the data
  and carries its own message.
* **`userView`** — `id`, `username`, `email`, `firstName`, `middleName` (or `null`),
  `lastName`, `createdAt` and `updatedAt` as `YYYY-MM-DDTHH:MM:SS` (or `null`).
* **`tokenView`** — `token` and `refreshToken`; **`identityView`** — `userId` and `userName`. -/

namespace Backoffice

namespace Api

/-- The code of every successful answer. -/
def successCode : String := "0000"

/-- **A successful answer** carrying `data`. -/
def success (data : JsonValue) : JsonValue :=
  .object [("code", .string successCode), ("msg", .string "success"), ("data", data)]

/-- **A successful answer** with a message and no data. -/
def notice (msg : String) : JsonValue :=
  .object [("code", .string successCode), ("msg", .string msg)]

/-- A text, or `null`. -/
def optionalText : Option String → JsonValue
  | some s => .string s
  | none => .null

/-- A time as `YYYY-MM-DDTHH:MM:SS`, or `null`. -/
def optionalTime : Option DateTime → JsonValue
  | some t => .string (t.render 'T')
  | none => .null

/-- **A user as the API shows it.** -/
def userView (p : UserProfile) : JsonValue :=
  .object [("id", .string p.id.render), ("username", .string p.username),
    ("email", .string p.email), ("firstName", .string p.firstName),
    ("middleName", optionalText p.middleName), ("lastName", .string p.lastName),
    ("createdAt", optionalTime p.createdAt), ("updatedAt", optionalTime p.updatedAt)]

/-- **A token pair as the API shows it.** -/
def tokenView (pair : TokenPair) : JsonValue :=
  .object [("token", .string pair.access), ("refreshToken", .string pair.refresh)]

/-- **The signed-in user as the API shows it.** -/
def identityView (p : UserProfile) : JsonValue :=
  .object [("userId", .string p.id.render), ("userName", .string p.username)]

end Api

end Backoffice
