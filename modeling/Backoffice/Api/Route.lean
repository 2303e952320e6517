/-! # Routes of the back office API

Which endpoint a request path names, which methods it answers, and whether it needs a signed-in
caller.

* **`Endpoint.ofPath?`** — the path, matched exactly and without decoding: `/health`, the four
  sign-in paths under `/api/v1/auth/`, `/api/v1/users`, and `/api/v1/users/` followed by one
  non-empty segment. A trailing slash is a different path.
* **`Endpoint.action?`** — the operation for a method; `HEAD` is answered as `GET`.
* **`Endpoint.allowText`** — the methods an endpoint answers, as listed in an `Allow` header.
* **`Endpoint.isGated`** — user information, sign-out and all user administration need a
  bearer token. -/

namespace Backoffice

namespace Api

/-- **An HTTP method.** -/
inductive Method where
  | get
  | head
  | post
  | put
  | delete
  | options
  | other (name : String)
  deriving DecidableEq, Repr

/-- The method named by a request; names are compared exactly. -/
def Method.ofName : String → Method
  | "GET" => .get
  | "HEAD" => .head
  | "POST" => .post
  | "PUT" => .put
  | "DELETE" => .delete
  | "OPTIONS" => .options
  | name => .other name

/-- **An endpoint of the API**; `user` carries its raw path segment. -/
inductive Endpoint where
  | health
  | login
  | refreshToken
  | userInfo
  | logout
  | users
  | user (segment : String)
  deriving DecidableEq, Repr

/-- **What a request asks for** once its endpoint and method are known. -/
inductive Action where
  | health
  | login
  | refresh
  | userInfo
  | logout
  | listUsers
  | createUser
  | getUser (segment : String)
  | updateUser (segment : String)
  | deleteUser (segment : String)
  deriving DecidableEq, Repr

namespace Endpoint

/-- **The endpoint of a path**, if any: the runs of characters between its slashes. -/
def ofPath? (path : String) : Option Endpoint :=
  match (path.toList.splitOn '/').map String.ofList with
  | ["", "health"] => some .health
  | ["", "api", "v1", "auth", "login"] => some .login
  | ["", "api", "v1", "auth", "refresh-token"] => some .refreshToken
  | ["", "api", "v1", "auth", "getUserInfo"] => some .userInfo
  | ["", "api", "v1", "auth", "logout"] => some .logout
  | ["", "api", "v1", "users"] => some .users
  | ["", "api", "v1", "users", segment] => if segment.isEmpty then none else some (.user segment)
  | _ => none

/-- The action for the method `GET`, which also answers `HEAD`. -/
def onGet : Endpoint → Option Action
  | .health => some .health
  | .userInfo => some .userInfo
  | .users => some .listUsers
  | .user s => some (.getUser s)
  | _ => none

/-- **The action of a method** at an endpoint, if the endpoint answers it. -/
def action? (e : Endpoint) : Method → Option Action
  | .get | .head => e.onGet
  | .post =>
    match e with
    | .login => some .login
    | .refreshToken => some .refresh
    | .logout => some .logout
    | .users => some .createUser
    | _ => none
  | .put => match e with
    | .user s => some (.updateUser s)
    | _ => none
  | .delete => match e with
    | .user s => some (.deleteUser s)
    | _ => none
  | _ => none

/-- **The methods an endpoint answers**, in the order an `Allow` header lists them. -/
def allowText : Endpoint → String
  | .health | .userInfo => "GET,HEAD"
  | .login | .refreshToken | .logout => "POST"
  | .users => "GET,HEAD,POST"
  | .user _ => "GET,HEAD,PUT,DELETE"

/-- **Whether an endpoint needs a signed-in caller.** -/
def isGated : Endpoint → Bool
  | .health | .login | .refreshToken => false
  | _ => true

end Endpoint

end Api

end Backoffice
