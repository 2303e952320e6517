/-! # HTTP requests

A request as the service sees it: a method, a target path (perhaps with a query), headers with
lowercase names and values as octets, and a body.

* **`Request.header?`** — the first value of a header.
* **`Request.route`** — the path without its query. -/

namespace Backoffice

namespace Http

/-- **An HTTP request.** -/
structure Request where
  method : String
  target : String
  headers : List (String × List UInt8)
  body : List UInt8
  deriving DecidableEq, Repr

namespace Request

/-- The first value of header `name`. -/
def header? (r : Request) (name : String) : Option (List UInt8) :=
  (r.headers.find? (·.1 == name)).map (·.2)

/-- The path of the target, without a query. -/
def route (r : Request) : String := String.ofList (r.target.toList.takeWhile (· != '?'))

end Request

/-- **Header text**: the value as text when every octet is visible ASCII or a tab. -/
def headerText? (value : List UInt8) : Option String :=
  if value.all fun b => b == 0x09 || (0x20 ≤ b && b < 0x7F) then
    some (String.ofList (value.map fun b => Char.ofNat b.toNat))
  else none

end Http

end Backoffice
