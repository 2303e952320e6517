import Backoffice.User.Profile
import Backoffice.App.Error

/-! # Where users are kept

The user store, in three kinds, each a pure value that its writes return anew.

* **`Ledger`** — the users table of the persistent store: rows in the order they were written,
  each with a deleted mark, as the queries read `deleted_at`. The `n`-th row has the id `n`. A clock starting at 2025-01-01 00:00:00 moves one second before each
  successful insert or update, which stamps the row. A user name or e-mail address in use by a
  live row cannot be used again; deleting a row frees both.
* **`Fixture`** — users by id, listed by user name, with random-form ids, all stamped
  2025-01-01 00:00:00; updates keep the stamps and do not check addresses, and deleting
  removes the user.
* **`UserStore.offline`** — a store that cannot be reached: every call fails with the fault of
  connecting to a socket that is not there.

**`UserStore`** gives the six calls of the user directory over all three: find by user name
(live users only), get by id, list, create, update and delete. -/

namespace Backoffice

/-- **A row of the ledger**: the user and whether it was deleted. -/
structure LedgerRow where
  user : UserCredentials
  deleted : Bool
  deriving DecidableEq, Repr

/-- **The ledger store.** -/
structure Ledger where
  rows : List LedgerRow
  clock : DateTime
  deriving DecidableEq, Repr

/-- **The fixture store**: its users, and the seed of the next random-form id. -/
structure Fixture where
  users : List UserCredentials
  nextId : Nat
  deriving DecidableEq, Repr

/-- **A user store.** -/
inductive UserStore where
  | ledger (l : Ledger)
  | fixture (f : Fixture)
  | offline
  deriving DecidableEq, Repr

/-- A store answer: a value and the store after the call. -/
abbrev StoreResult (α : Type) := Except AppError (α × UserStore)

namespace LedgerRow

/-- Whether a row is the live row of the user `id`. -/
def isLive (id : Uuid) (r : LedgerRow) : Bool := !r.deleted && r.user.profile.id == id

/-- **A row after an update** of the live user `id` at time `t`: names, address, the hash when
one is given, and the stamp. Other rows are left as they are. -/
def change (t : DateTime) (id : Uuid) (ch : UserChanges) (r : LedgerRow) : LedgerRow :=
  if r.isLive id then
    let p := { r.user.profile.withChanges ch with updatedAt := some t }
    { r with user := ⟨p, ch.passwordHash.getD r.user.passwordHash⟩ }
  else r

/-- **A row after a delete** of the live user `id`: marked deleted. -/
def markDeleted (id : Uuid) (r : LedgerRow) : LedgerRow :=
  if r.isLive id then { r with deleted := true } else r

end LedgerRow

namespace Ledger

/-- The empty ledger, its clock at 2025-01-01 00:00:00. -/
def empty : Ledger := ⟨[], DateTime.newYear2025⟩

/-- The rows not deleted. -/
def live (l : Ledger) : List UserCredentials :=
  (l.rows.filter fun r => !r.deleted).map (·.user)

/-- **Insert a user** without checks: the next id, the clock moved and stamped. -/
def insert (l : Ledger) (u : NewUser) : UserProfile × Ledger :=
  let t := l.clock.tick
  let p : UserProfile := ⟨⟨l.rows.length + 1⟩, u.username, u.email, u.firstName, u.middleName,
    u.lastName, some t, some t⟩
  (p, ⟨l.rows ++ [⟨⟨p, u.passwordHash⟩, false⟩], t⟩)

/-- **Create a user**, refusing a user name or address of a live row. -/
def create (l : Ledger) (u : NewUser) : Except AppError (UserProfile × Ledger) :=
  if l.live.any fun c => c.profile.username == u.username || c.profile.email == u.email then
    .error (.invalidInput AppError.duplicateMessage)
  else .ok (l.insert u)

/-- **Update a live user**, refusing an address of another live row. -/
def update (l : Ledger) (id : Uuid) (ch : UserChanges) : Except AppError (UserProfile × Ledger) :=
  match l.rows.find? (LedgerRow.isLive id) with
  | none => .error .notFound
  | some _ =>
    if l.live.any fun c => c.profile.id != id && c.profile.email == ch.email then
      .error (.invalidInput AppError.duplicateMessage)
    else
      let t := l.clock.tick
      let rows := l.rows.map (LedgerRow.change t id ch)
      match rows.find? (LedgerRow.isLive id) with
      | some r => .ok (r.user.profile, ⟨rows, t⟩)
      | none => .error .notFound

/-- **Delete a live user.** -/
def delete (l : Ledger) (id : Uuid) : Except AppError Ledger :=
  if l.rows.any (LedgerRow.isLive id) then
    .ok { l with rows := l.rows.map (LedgerRow.markDeleted id) }
  else .error .notFound

end Ledger

namespace Fixture

/-- The empty fixture store. -/
def empty : Fixture := ⟨[], 1⟩

/-- A fresh random-form id, and the store that will not give it again. -/
def freshId (f : Fixture) : Uuid × Fixture :=
  (Uuid.version4 (f.nextId * 0x9E3779B97F4A7C15), { f with nextId := f.nextId + 1 })

/-- **Create a user**, refusing a user name or address already kept. -/
def create (f : Fixture) (u : NewUser) : Except AppError (UserProfile × Fixture) :=
  if f.users.any fun c => c.profile.username == u.username || c.profile.email == u.email then
    .error (.invalidInput AppError.duplicateMessage)
  else
    let (id, f) := f.freshId
    let t := DateTime.newYear2025
    let p : UserProfile := ⟨id, u.username, u.email, u.firstName, u.middleName, u.lastName,
      some t, some t⟩
    .ok (p, { f with users := f.users ++ [⟨p, u.passwordHash⟩] })

/-- **Update a user**: names, address, and the hash when one is given. -/
def update (f : Fixture) (id : Uuid) (ch : UserChanges) : Except AppError (UserProfile × Fixture) :=
  match f.users.find? fun c => c.profile.id == id with
  | none => .error .notFound
  | some c =>
    let p := c.profile.withChanges ch
    let c' : UserCredentials := ⟨p, ch.passwordHash.getD c.passwordHash⟩
    let swap := fun (x : UserCredentials) => if x.profile.id == id then c' else x
    .ok (p, { f with users := f.users.map swap })

/-- **Remove a user.** -/
def delete (f : Fixture) (id : Uuid) : Except AppError Fixture :=
  if f.users.any fun c => c.profile.id == id then
    .ok { f with users := f.users.filter fun c => c.profile.id != id }
  else .error .notFound

/-- **A sample user** with a user name and hash: address `<name>@example.com`, named Test User,
stamped 2025-01-01 00:00:00, with a placeholder id. -/
def sampleUser (username passwordHash : String) : UserCredentials :=
  ⟨⟨⟨0⟩, username, username ++ "@example.com", "Test", none, "User", some DateTime.newYear2025,
    some DateTime.newYear2025⟩, passwordHash⟩

/-- **Add a user as it is** under a fresh id. -/
def add (f : Fixture) (c : UserCredentials) : UserProfile × Fixture :=
  let (id, f) := f.freshId
  let p := { c.profile with id := id }
  (p, { f with users := f.users ++ [⟨p, c.passwordHash⟩] })

/-- Profiles ordered by user name. -/
def sortedProfiles (f : Fixture) : List UserProfile :=
  (f.users.map (·.profile)).mergeSort fun a b => decide (a.username ≤ b.username)

end Fixture

namespace UserStore

/-- The fault of every call to a store that cannot be reached. -/
def unreachable : AppError :=
  AppError.ofStoreFault (.io "No such file or directory (os error 2)")

/-- **Find a live user by user name.** -/
def findByUsername (s : UserStore) (username : String) : Except AppError (Option UserCredentials) :=
  match s with
  | .ledger l => .ok (l.live.find? fun c => c.profile.username == username)
  | .fixture f => .ok (f.users.find? fun c => c.profile.username == username)
  | .offline => .error unreachable

/-- **Get a live user's profile by id.** -/
def getById (s : UserStore) (id : Uuid) : Except AppError (Option UserProfile) :=
  match s with
  | .ledger l => .ok ((l.live.find? fun c => c.profile.id == id).map (·.profile))
  | .fixture f => .ok ((f.users.find? fun c => c.profile.id == id).map (·.profile))
  | .offline => .error unreachable

/-- **The live users' profiles.** -/
def list (s : UserStore) : Except AppError (List UserProfile) :=
  match s with
  | .ledger l => .ok (l.live.map (·.profile))
  | .fixture f => .ok f.sortedProfiles
  | .offline => .error unreachable

/-- **Create a user.** -/
def create (s : UserStore) (u : NewUser) : StoreResult UserProfile :=
  match s with
  | .ledger l => (l.create u).map fun (p, l) => (p, .ledger l)
  | .fixture f => (f.create u).map fun (p, f) => (p, .fixture f)
  | .offline => .error unreachable

/-- **Update a user.** -/
def update (s : UserStore) (id : Uuid) (ch : UserChanges) : StoreResult UserProfile :=
  match s with
  | .ledger l => (l.update id ch).map fun (p, l) => (p, .ledger l)
  | .fixture f => (f.update id ch).map fun (p, f) => (p, .fixture f)
  | .offline => .error unreachable

/-- **Delete a user.** -/
def delete (s : UserStore) (id : Uuid) : StoreResult Unit :=
  match s with
  | .ledger l => (l.delete id).map fun l => ((), .ledger l)
  | .fixture f => (f.delete id).map fun f => ((), .fixture f)
  | .offline => .error unreachable

end UserStore

end Backoffice
