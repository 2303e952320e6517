import Backoffice.User.Store
import Backoffice.Crypto.Bcrypt
import Backoffice.Mail.Address
import Backoffice.Text.Lowercase
import Backoffice.Token.Issue

/-! # Managing accounts

What the back office does with users and sign-ins, over a user store.

* **`Directory.createUser`** — checks in this order: a user name (trimmed) is given; the e-mail
  address is valid; first and then last name (trimmed) are given; the password has at least
  six characters; the user name is not taken by a live user. Then the password is hashed and
  the user stored, the address trimmed and lowercased, the middle name trimmed and dropped when
  empty.
* **`Directory.updateUser`** — the same checks of the person, then a new password (if given and
  not empty) of at least six characters, its hash, and the update.
* **`Directory.login`** — an unknown user name or a wrong password are the same refusal; a
  stored hash that cannot be read is an internal fault. A pair of tokens is issued for the user
  name.
* **`Directory.refresh`**, **`Directory.userInfo`** — a new pair from a refresh token, and the
  profile of a signed-in identity. -/

namespace Backoffice

/-- The fewest characters of a password. -/
def minPasswordLength : Nat := 6

/-- **Whether a password is long enough.** -/
def isValidPassword (p : String) : Bool := p.length ≥ minPasswordLength

/-- The refusal of a short password. -/
def passwordTooShort : AppError :=
  .invalidInput ("Password must be at least " ++ toString minPasswordLength ++ " characters")

/-- **What a new user is created from.** -/
structure CreateInput where
  username : String
  email : String
  firstName : String
  middleName : Option String
  lastName : String
  password : String
  deriving DecidableEq, Repr

/-- **What a user is updated from.** -/
structure UpdateInput where
  email : String
  firstName : String
  middleName : Option String
  lastName : String
  password : Option String
  deriving DecidableEq, Repr

/-- **A checked person**: address, first, middle and last names as stored. -/
structure Person where
  email : String
  firstName : String
  middleName : Option String
  lastName : String
  deriving DecidableEq, Repr

/-- **Check a person's fields** and bring them to their stored form. -/
def validatePerson (email firstName : String) (middleName : Option String) (lastName : String) :
    Except AppError Person :=
  if !Mail.isValidAddress email then .error (.invalidInput "Invalid email address")
  else
    let first := Text.trimWhiteSpace firstName
    let last := Text.trimWhiteSpace lastName
    if first.isEmpty then .error (.invalidInput "First name cannot be empty")
    else if last.isEmpty then .error (.invalidInput "Last name cannot be empty")
    else
      let middle := (middleName.map Text.trimWhiteSpace).filter (!·.isEmpty)
      .ok ⟨Text.toLowercase (Text.trimWhiteSpace email), first, middle, last⟩

/-- **Hash a password**, a fault being internal. -/
def hashPassword (password : String) (cost : Nat) (salt : List UInt8) : Except AppError String :=
  (Bcrypt.hashWithSalt password.toUTF8.toList cost salt).mapError fun e =>
    .internal ("Password hashing failed: " ++ e.message)

/-- **Check a password against a stored hash**, an unreadable hash being internal. -/
def verifyPassword (password hash : String) : Except AppError Bool :=
  (Bcrypt.verify password.toUTF8.toList hash).mapError fun e =>
    .internal ("Stored password hash is unusable: " ++ e.message)

/-- **The user directory**: the store, the hashing cost, the tokens, and the seed of the next
salt. -/
structure Directory where
  store : UserStore
  cost : Nat
  tokens : TokenService
  saltSeed : Nat

namespace Directory

/-- The 16 salt octets of a seed. -/
def saltOf (seed : Nat) : List UInt8 :=
  let n := seed * 0x9E3779B97F4A7C15F39CC0605CEDC835 % Nat.pow 2 128
  (List.range 16).map fun i => UInt8.ofNat (n / Nat.pow 2 (8 * (15 - i)))

/-- Hash a password with the next salt. -/
def hashNext (d : Directory) (password : String) : Except AppError (String × Directory) :=
  (hashPassword password d.cost (saltOf d.saltSeed)).map fun h =>
    (h, { d with saltSeed := d.saltSeed + 1 })

/-- Hash a password as the test-user factory does, at the least cost bcrypt allows, with the
next salt. -/
def hashLight (d : Directory) (password : String) : Except AppError (String × Directory) :=
  (hashPassword password Bcrypt.minCost (saltOf d.saltSeed)).map fun h =>
    (h, { d with saltSeed := d.saltSeed + 1 })

/-- **Create a user**, made by `actor`. -/
def createUser (d : Directory) (actor : String) (input : CreateInput) :
    Except AppError (UserProfile × Directory) := do
  let username := Text.trimWhiteSpace input.username
  if username.isEmpty then throw (.invalidInput "Username cannot be empty")
  let person ← validatePerson input.email input.firstName input.middleName input.lastName
  if !isValidPassword input.password then throw passwordTooShort
  if (← d.store.findByUsername username).isSome then
    throw (.invalidInput "User is already registered")
  let (hash, d) ← d.hashNext input.password
  let (profile, store) ← d.store.create
    ⟨username, person.email, person.firstName, person.middleName, person.lastName, hash, actor⟩
  pure (profile, { d with store := store })

/-- **A user's profile.** -/
def getUser (d : Directory) (id : Uuid) : Except AppError UserProfile := do
  match ← d.store.getById id with
  | some p => pure p
  | none => throw .notFound

/-- **The users' profiles.** -/
def listUsers (d : Directory) : Except AppError (List UserProfile) := d.store.list

/-- **Update a user**, by `actor`. -/
def updateUser (d : Directory) (actor : String) (id : Uuid) (input : UpdateInput) :
    Except AppError (UserProfile × Directory) := do
  let person ← validatePerson input.email input.firstName input.middleName input.lastName
  let (hash, d) ←
    match input.password.filter (!·.isEmpty) with
    | some p =>
      if !isValidPassword p then throw passwordTooShort
      else (d.hashNext p).map fun (h, d) => (some h, d)
    | none => pure (none, d)
  let (profile, store) ← d.store.update id
    ⟨person.email, person.firstName, person.middleName, person.lastName, hash, actor⟩
  pure (profile, { d with store := store })

/-- **Delete a user.** -/
def deleteUser (d : Directory) (id : Uuid) : Except AppError Directory := do
  let ((), store) ← d.store.delete id
  pure { d with store := store }

/-- **Sign in** at second `now`. -/
def login (d : Directory) (username password : String) (now : Int) : Except AppError TokenPair := do
  match ← d.store.findByUsername username with
  | none => throw .invalidCredentials
  | some user =>
    if !(← verifyPassword password user.passwordHash) then throw .invalidCredentials
    (d.tokens.issueAt user.profile.username now).mapError AppError.ofIssue

/-- **A new pair from a refresh token** at second `now`. -/
def refresh (d : Directory) (token : String) (now : Int) : Except AppError TokenPair :=
  (refreshAt d.tokens.verifier d.tokens.issuer token now).mapError AppError.ofRefresh

/-- **The profile of a signed-in identity.** -/
def userInfo (d : Directory) (identity : String) : Except AppError UserProfile := do
  match ← d.store.findByUsername identity with
  | some user => pure user.profile
  | none => throw .notFound

end Directory

end Backoffice
