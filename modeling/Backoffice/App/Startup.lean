import Backoffice.App.Config
import Backoffice.Store.Connect

/-! # Starting the service

The steps from the environment to a running service, on a host (`Host`) where no database
server runs, so that starting always stops at the latest when the store is first reached.

* **`startup`** — the steps in order: read the settings; create the log file, if one is set;
  build the token service; read the database locator; size the connection pool (a pool of
  none aborts); and connect, which fails. -/

namespace Backoffice

/-- The prefix of every fault met while connecting to the store. -/
def connectFailurePrefix : String := "Postgres connection failed (check DATABASE_URL/password): "

/-- **Start the service** on a host, from its environment: the reason it stops. -/
def startup (host : Host) (env : Environment) : StartupFailure :=
  match AppConfig.ofEnvironment env with
  | .error f => f
  | .ok c =>
    let logFault := c.logFile.bind fun path =>
      (host.createFault? path).map fun e => "Cannot create log file " ++ path ++ ": " ++ e.message
    match logFault with
    | some m => .error m
    | none =>
      match c.tokenService with
      | .error e => .error ("Invalid token configuration: " ++ e.message)
      | .ok _ =>
        match ConnectOptions.ofLocator c.databaseUrl with
        | .error f => .error (connectFailurePrefix ++ f.message)
        | .ok o =>
          if c.maxConnections = 0 then .abort "capacity must be non-zero"
          else .error (connectFailurePrefix ++ (o.attempt host).message)

end Backoffice
