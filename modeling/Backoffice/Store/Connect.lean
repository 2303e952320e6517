import Backoffice.Net.Url
import Backoffice.Text.Integer
import Backoffice.Text.Quoted
import Backoffice.Store.Fault
import Backoffice.Host.Files

/-! # Connecting to the user store

How a database locator becomes connection options, and what a connection attempt meets.

* **`ConnectOptions.ofLocator`** — the locator is read as a URL. Its host (a host that decodes
  to a text starting with `/` is the directory of a local socket), port, user name, password
  and database are taken in this order, each decoded from percent escapes and refused if that
  is not UTF-8. Then the query parameters are applied in order: `sslmode`, the statement cache
  capacity, `host` (a value starting with `/` names a socket directory), `hostaddr` (which must
  be an IP address), `port`, `dbname`, `user`, `password`, `application_name` and `options`;
  others are ignored. The first fault is reported as a configuration fault.
* **`ConnectOptions.attempt`** — the fault of a connection attempt on a host where no database
  server runs: a socket path too long or containing a NUL, else what the host reports for the
  local socket; without a local socket the pool gives up waiting. -/

namespace Backoffice

/-- **How the connection is secured.** -/
inductive SslMode where
  | disable
  | allow
  | prefer
  | require
  | verifyCa
  | verifyFull
  deriving DecidableEq, Repr

/-- An SSL mode by name, in any ASCII case. -/
def SslMode.ofName? (s : String) : Option SslMode :=
  match s.toLower with
  | "disable" => some .disable
  | "allow" => some .allow
  | "prefer" => some .prefer
  | "require" => some .require
  | "verify-ca" => some .verifyCa
  | "verify-full" => some .verifyFull
  | _ => none

/-- **Connection options** for the user store. -/
structure ConnectOptions where
  host : String
  port : Nat
  socket : Option String
  username : Option String
  password : Option String
  database : Option String
  sslMode : SslMode
  statementCacheCapacity : Nat
  applicationName : Option String
  options : Option String
  deriving DecidableEq, Repr

namespace ConnectOptions

/-- The options before a locator is read: local host, port 5432, preferred SSL. -/
def base : ConnectOptions :=
  ⟨"localhost", 5432, none, none, none, none, .prefer, 100, none, none⟩

/-- Percent-decoded text, refused when it is not UTF-8. -/
def decodeText (s : String) : Except StoreFault String :=
  let bs := Net.percentDecode s
  match Text.Utf8Fault.first? bs with
  | some f => .error (.configuration f.message)
  | none => .ok (Net.decodeLossy bs)

/-- An integer parameter of `bits` bits, its fault reported as a configuration fault. -/
def unsignedParameter (bits : Nat) (s : String) : Except StoreFault Nat :=
  (Text.readUnsigned bits s).mapError fun e => .configuration e.message

/-- **Apply one query parameter.** -/
def applyParameter (o : ConnectOptions) (key value : String) : Except StoreFault ConnectOptions :=
  match key with
  | "sslmode" | "ssl-mode" =>
    match SslMode.ofName? value with
    | some m => .ok { o with sslMode := m }
    | none =>
      .error (.configuration (StoreFault.configuration
        ("unknown value " ++ Text.quoted value ++ " for \x60ssl_mode\x60")).message)
  | "statement-cache-capacity" =>
    (unsignedParameter 64 value).map fun n => { o with statementCacheCapacity := n }
  | "host" =>
    if value.startsWith "/" then .ok { o with socket := some value }
    else .ok { o with host := value }
  | "hostaddr" =>
    match Net.IpAddress.parse? value with
    | some _ => .ok { o with host := value }
    | none => .error (.configuration "invalid IP address syntax")
  | "port" => (unsignedParameter 16 value).map fun n => { o with port := n }
  | "dbname" => .ok { o with database := some value }
  | "user" => .ok { o with username := some value }
  | "password" => .ok { o with password := some value }
  | "application_name" => .ok { o with applicationName := some value }
  | "options" =>
    .ok { o with options := some (match o.options with | some p => p ++ " " ++ value | none => value) }
  | _ => .ok o

/-- **Options from a locator.** -/
def ofLocator (locator : String) : Except StoreFault ConnectOptions := do
  let url ← (Net.Url.parse locator).mapError fun e => .configuration e.message
  let mut o := base
  if let some h := url.host then
    if (Net.percentDecode h).head? == some 0x2F then
      o := { o with socket := some (← decodeText h) }
    else
      o := { o with host := h }
  if let some p := url.port then
    o := { o with port := p }
  if !url.username.isEmpty then
    o := { o with username := some (← decodeText url.username) }
  if let some pw := url.password then
    o := { o with password := some (← decodeText pw) }
  let path := String.ofList (url.path.toList.dropWhile (· == '/'))
  if !path.isEmpty then
    o := { o with database := some (← decodeText path) }
  url.queryPairs.foldlM (fun o (k, v) => o.applyParameter k v) o

/-- The path of the local socket: the socket directory and a file named for the port. -/
def socketPath? (o : ConnectOptions) : Option String :=
  o.socket.map fun dir => dir ++ "/.s.PGSQL." ++ toString o.port

/-- The longest socket path, in octets, plus one. -/
def socketPathLimit : Nat := 108

/-- **The fault a connection attempt meets** on a host where no database server runs: what the
host reports for the socket, unless its path cannot name a socket at all. Without a local
socket, the attempt waits until the pool gives up. -/
def attempt (o : ConnectOptions) (host : Host) : StoreFault :=
  match o.socketPath? with
  | some path =>
    if path.toList.contains (Char.ofNat 0) then .io "paths must not contain interior null bytes"
    else if path.utf8ByteSize ≥ socketPathLimit then .io "path must be shorter than SUN_LEN"
    else .io (host.connectFault path).message
  | none => .poolTimedOut

end ConnectOptions

end Backoffice
