import Backoffice.Ident.Uuid
import Backoffice.Time.DateTime
import Backoffice.Text.Quoted

/-! # Users

The people who may sign in to the back office, and the records about them.

* **`UserProfile`** — what is shown of a user: id, user name, e-mail address, first, middle and
  last names, and when the record was created and last changed.
* **`UserCredentials`** — a profile with the user's password hash; its diagnostic form shows
  the profile only.
* **`NewUser`** — what is stored for a user being created, and by whom.
* **`UserChanges`** — what an update replaces, a new password hash only when one is given.

Each has a diagnostic form: the type name and its fields in order, text quoted, absent values
`None`, present ones `Some(…)`, identifiers hyphenated and times as `YYYY-MM-DDTHH:MM:SS`. -/

namespace Backoffice

/-- **The profile of a user.** -/
structure UserProfile where
  id : Uuid
  username : String
  email : String
  firstName : String
  middleName : Option String
  lastName : String
  createdAt : Option DateTime
  updatedAt : Option DateTime
  deriving DecidableEq, Repr

/-- **A user's profile and password hash.** -/
structure UserCredentials where
  profile : UserProfile
  passwordHash : String
  deriving DecidableEq, Repr

/-- **A user to be created.** -/
structure NewUser where
  username : String
  email : String
  firstName : String
  middleName : Option String
  lastName : String
  passwordHash : String
  createdBy : String
  deriving DecidableEq, Repr

/-- **The changes to a user.** -/
structure UserChanges where
  email : String
  firstName : String
  middleName : Option String
  lastName : String
  passwordHash : Option String
  updatedBy : String
  deriving DecidableEq, Repr

/-- The diagnostic form of an optional value. -/
def optionDebug {α : Type} (f : α → String) : Option α → String
  | some a => "Some(" ++ f a ++ ")"
  | none => "None"

/-- The diagnostic form of a record: its name and its fields. -/
def recordDebug (name : String) (fields : List (String × String)) (more : Bool) : String :=
  let body := ", ".intercalate (fields.map fun (k, v) => k ++ ": " ++ v)
  name ++ " \x7b " ++ body ++ (if more then ", .. \x7d" else " \x7d")

/-- The diagnostic form of a time. -/
def timeDebug (t : DateTime) : String := t.render 'T'

/-- **The diagnostic form of a profile.** -/
def UserProfile.debugText (p : UserProfile) : String :=
  recordDebug "UserProfile" [("id", p.id.render), ("username", Text.quoted p.username),
    ("email", Text.quoted p.email), ("first_name", Text.quoted p.firstName),
    ("middle_name", optionDebug Text.quoted p.middleName), ("last_name", Text.quoted p.lastName),
    ("created_at", optionDebug timeDebug p.createdAt),
    ("updated_at", optionDebug timeDebug p.updatedAt)] false

/-- **The diagnostic form of credentials**: the profile, the hash withheld. -/
def UserCredentials.debugText (c : UserCredentials) : String :=
  recordDebug "UserCredentials" [("profile", c.profile.debugText)] true

/-- The diagnostic form of a user to be created. -/
def NewUser.debugText (u : NewUser) : String :=
  recordDebug "NewUser" [("username", Text.quoted u.username), ("email", Text.quoted u.email),
    ("first_name", Text.quoted u.firstName), ("middle_name", optionDebug Text.quoted u.middleName),
    ("last_name", Text.quoted u.lastName), ("password_hash", Text.quoted u.passwordHash),
    ("created_by", Text.quoted u.createdBy)] false

/-- The diagnostic form of changes to a user. -/
def UserChanges.debugText (c : UserChanges) : String :=
  recordDebug "UserChanges" [("email", Text.quoted c.email),
    ("first_name", Text.quoted c.firstName), ("middle_name", optionDebug Text.quoted c.middleName),
    ("last_name", Text.quoted c.lastName), ("password_hash", optionDebug Text.quoted c.passwordHash),
    ("updated_by", Text.quoted c.updatedBy)] false

/-- **A profile with the names and address of a change.** -/
def UserProfile.withChanges (p : UserProfile) (ch : UserChanges) : UserProfile :=
  ⟨p.id, p.username, ch.email, ch.firstName, ch.middleName, ch.lastName, p.createdAt, p.updatedAt⟩

/-- **The user to create** with a stored record's fields, created by `actor`. -/
def UserCredentials.asNewUser (c : UserCredentials) (actor : String) : NewUser :=
  ⟨c.profile.username, c.profile.email, c.profile.firstName, c.profile.middleName,
    c.profile.lastName, c.passwordHash, actor⟩

/-- **The changes** that set a stored record's fields, the hash kept, made by `actor`. -/
def UserCredentials.asChanges (c : UserCredentials) (actor : String) : UserChanges :=
  ⟨c.profile.email, c.profile.firstName, c.profile.middleName, c.profile.lastName, none, actor⟩

end Backoffice
