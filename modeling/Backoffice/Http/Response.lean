import Backoffice.Json.Writer

/-! # HTTP responses

A response is a status code, headers in the order they were set (names lowercase), and a body
of octets. `Response.json` is a response whose body is JSON text with its content type. -/

namespace Backoffice

namespace Http

/-- **An HTTP response.** -/
structure Response where
  status : Nat
  headers : List (String × String)
  body : List UInt8
  deriving DecidableEq, Repr

namespace Response

/-- A JSON response: the compact text of `v`, typed `application/json`. -/
def json (status : Nat) (v : JsonValue) : Response :=
  ⟨status, [("content-type", "application/json")], v.render.toUTF8.toList⟩

/-- An empty response. -/
def empty (status : Nat) : Response := ⟨status, [], []⟩

/-- The value of header `name`, the first if repeated. -/
def header? (r : Response) (name : String) : Option String :=
  (r.headers.find? (·.1 == name)).map (·.2)

/-- `r` with header `name` set to `value`, replacing any earlier value. -/
def setHeader (r : Response) (name value : String) : Response :=
  { r with headers := (r.headers.filter (·.1 != name)) ++ [(name, value)] }

/-- `r` with header `name` set to `value` unless it already has one. -/
def defaultHeader (r : Response) (name value : String) : Response :=
  if (r.header? name).isSome then r else { r with headers := r.headers ++ [(name, value)] }

end Response

end Http

end Backoffice
