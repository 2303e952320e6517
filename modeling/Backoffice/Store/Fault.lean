/-! # Faults of the user store

What the database behind the user store can report: no row, a fault raised by the database
with its message, an exhausted or closed connection pool, a crashed worker, a broken protocol,
a missing column, an I/O fault, or a bad configuration. -/

namespace Backoffice

/-- **A fault reported by the user store.** -/
inductive StoreFault where
  | rowNotFound
  | database (message : String)
  | poolTimedOut
  | poolClosed
  | workerCrashed
  | protocol (message : String)
  | columnNotFound (column : String)
  | io (message : String)
  | configuration (message : String)
  deriving DecidableEq, Repr

/-- **The wording of a store fault.** -/
def StoreFault.message : StoreFault → String
  | .rowNotFound => "no rows returned by a query that expected to return at least one row"
  | .database m => "error returned from database: " ++ m
  | .poolTimedOut => "pool timed out while waiting for an open connection"
  | .poolClosed => "attempted to acquire a connection on a closed pool"
  | .workerCrashed => "attempted to communicate with a crashed background worker"
  | .protocol m => "encountered unexpected or invalid data: " ++ m
  | .columnNotFound c => "no column found for name: " ++ c
  | .io m => "error communicating with database: " ++ m
  | .configuration m => "error with configuration: " ++ m

/-- Whether a database message reports a violated uniqueness constraint. -/
def StoreFault.isUniqueViolation (message : String) : Bool :=
  (message.splitOn "duplicate key").length > 1 || (message.splitOn "unique constraint").length > 1

end Backoffice
