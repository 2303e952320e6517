/-! # Files on the machine a service starts on

What a service meets when it opens files on its machine: a tree of directories and other files,
a working directory, and the faults the operating system reports when a path does not lead where
it should. Paths are walked name by name from the root or the working directory: `.` stays, `..`
climbs (the root is its own parent), and every name but the last must be a directory.

* **`OsError`** — the faults met, each with its number and wording.
* **`Host.walk`** — the directory that the leading names of a path lead to.
* **`Host.createFault?`** — why a file cannot be created, or emptied, at a path: a directory
  there or named with a slash at its end, a missing directory on the way, a file on the way, a
  name longer than a directory entry holds, or a directory that takes no new entries.
* **`Host.connectFault`** — why a local socket at a path cannot be reached where no server
  listens: the walk fails, the socket is missing, or the entry there refuses the connection. -/

namespace Backoffice

/-- **A fault reported by the operating system.** -/
inductive OsError where
  | notFound
  | notADirectory
  | isADirectory
  | readOnlyFileSystem
  | nameTooLong
  | connectionRefused
  deriving DecidableEq, Repr

namespace OsError

/-- The number of a fault. -/
def code : OsError → Nat
  | .notFound => 2
  | .notADirectory => 20
  | .isADirectory => 21
  | .readOnlyFileSystem => 30
  | .nameTooLong => 36
  | .connectionRefused => 111

/-- The description of a fault. -/
def description : OsError → String
  | .notFound => "No such file or directory"
  | .notADirectory => "Not a directory"
  | .isADirectory => "Is a directory"
  | .readOnlyFileSystem => "Read-only file system"
  | .nameTooLong => "File name too long"
  | .connectionRefused => "Connection refused"

/-- **The wording of a fault**: its description and its number. -/
def message (e : OsError) : String :=
  e.description ++ " (os error " ++ toString e.code ++ ")"

example : notFound.message = "No such file or directory (os error 2)" := by decide

end OsError

/-- **The machine a service starts on**: its directories and its other files, each by its
absolute path (the root is `/`), the working directory, and the directories that take no new
entries with the fault they give. -/
structure Host where
  directories : List String
  files : List String
  workingDirectory : String
  sealedDirectories : List (String × OsError)
  deriving DecidableEq, Repr

namespace Host

/-- The longest name of a directory entry, in octets. -/
def nameLimit : Nat := 255

/-- The longest path, in octets, with room for its terminating zero. -/
def pathLimit : Nat := 4096

/-- **The names of a path**: the parts between slashes, empty ones left out. -/
def names (path : String) : List String :=
  (path.splitOn "/").filter (· ≠ "")

/-- The absolute path of a list of names. -/
def absolute (ns : List String) : String :=
  "/" ++ "/".intercalate ns

/-- What stands at a place of a host. -/
inductive Entry where
  | directory
  | file
  | missing
  deriving DecidableEq, Repr

/-- **What stands at the place** reached by a list of names from the root. -/
def entry (h : Host) (place : List String) : Entry :=
  if h.directories.contains (absolute place) then .directory
  else if h.files.contains (absolute place) then .file
  else .missing

/-- **Walk names from a directory**, each leading to a directory: `.` stays, `..` climbs, and a
name that is too long, missing or not a directory stops the walk with its fault. -/
def walk (h : Host) (here : List String) : List String → Except OsError (List String)
  | [] => .ok here
  | n :: rest =>
    if n = "." then h.walk here rest
    else if n = ".." then h.walk here.dropLast rest
    else if nameLimit < n.utf8ByteSize then .error .nameTooLong
    else
      match h.entry (here ++ [n]) with
      | .directory => h.walk (here ++ [n]) rest
      | .file => .error .notADirectory
      | .missing => .error .notFound

/-- The directory a path is walked from: the root for an absolute path, else the working
directory. -/
def start (h : Host) (path : String) : List String :=
  if path.startsWith "/" then [] else names h.workingDirectory

/-- **Why a file cannot be created or emptied at a path**, if it cannot. -/
def createFault? (h : Host) (path : String) : Option OsError :=
  if path.isEmpty then some .notFound
  else if pathLimit ≤ path.utf8ByteSize then some .nameTooLong
  else
    let ns := names path
    match ns.getLast? with
    | none => some .isADirectory
    | some last =>
      match h.walk (h.start path) ns.dropLast with
      | .error e => some e
      | .ok dir =>
        if last = "." ∨ last = ".." then some .isADirectory
        else if nameLimit < last.utf8ByteSize then some .nameTooLong
        else
          match h.entry (dir ++ [last]) with
          | .directory => some .isADirectory
          | .file => if path.endsWith "/" then some .notADirectory else none
          | .missing =>
            if path.endsWith "/" then some .isADirectory
            else h.sealedDirectories.lookup (absolute dir)

/-- **Why a local socket cannot be reached at a path** where no server listens. -/
def connectFault (h : Host) (path : String) : OsError :=
  let ns := names path
  match h.walk (h.start path) ns.dropLast with
  | .error e => e
  | .ok dir =>
    match ns.getLast? with
    | none => .connectionRefused
    | some last =>
      if h.entry (dir ++ [last]) = .missing then .notFound else .connectionRefused

/-- **The machine of the service**: a usual system tree with an empty working directory; the
process table takes no new entries, and the system tree is read-only. -/
def standard : Host where
  directories := ["/", "/bin", "/boot", "/dev", "/dev/shm", "/etc", "/home", "/lib", "/lib64",
    "/media", "/mnt", "/opt", "/opt/app", "/opt/app/empty", "/proc", "/root", "/run", "/sbin",
    "/srv", "/sys", "/tmp", "/usr", "/usr/bin", "/usr/lib", "/usr/local", "/usr/sbin",
    "/usr/share", "/var", "/var/log", "/var/tmp"]
  files := ["/dev/null", "/dev/zero", "/dev/full", "/dev/random", "/dev/urandom", "/etc/passwd",
    "/etc/group", "/etc/hosts", "/etc/hostname", "/etc/resolv.conf"]
  workingDirectory := "/opt/app/empty"
  sealedDirectories := [("/proc", .notFound), ("/sys", .readOnlyFileSystem)]

end Host

end Backoffice
