import Backoffice.User.Accounts

/-! # The order of the account checks

Creating and updating a user check the input in a fixed order before the store is touched, and
report the first check that fails.

* **`firstRefusal`** — the refusal of the first failing check of a list of checks, each a test
  and its refusal; **`CreateInput.checks`** and **`UpdateInput.checks`** are the lists of the two
  calls, in the order they are made.
* **`createUser_eq`**, **`updateUser_eq`** — each call is its checks, then the store: the user
  name looked up, the password hashed and the user stored on create; the new password (if any)
  hashed and the user changed on update.
* **`accountCalls_check_order`** — the two, with what follows: a refusal of the input is an
  invalid input, the same whatever the store holds (which it never reads), and the fixture store
  refuses an update only for want of a user with the id. -/

namespace Backoffice

/-! ## The checks -/

/-- **The refusal of the first failing check**, each check being a test that fails when true,
with its refusal. -/
def firstRefusal (checks : List (Bool × AppError)) : Option AppError :=
  (checks.find? (·.1)).map (·.2)

/-- **The checks of a person's fields**, in order: the address, then the first and the last name
(trimmed). -/
def personChecks (email firstName lastName : String) : List (Bool × AppError) :=
  [(!Mail.isValidAddress email, .invalidInput "Invalid email address"),
   ((Text.trimWhiteSpace firstName).isEmpty, .invalidInput "First name cannot be empty"),
   ((Text.trimWhiteSpace lastName).isEmpty, .invalidInput "Last name cannot be empty")]

/-- **A person's fields as stored**: the address trimmed and lowercased, the names trimmed, and a
middle name that trims to nothing dropped. -/
def Person.ofFields (email firstName : String) (middleName : Option String) (lastName : String) :
    Person :=
  ⟨Text.toLowercase (Text.trimWhiteSpace email), Text.trimWhiteSpace firstName,
    (middleName.map Text.trimWhiteSpace).filter (!·.isEmpty), Text.trimWhiteSpace lastName⟩

/-- **The checks of a new user**, in order: a user name (trimmed), the person, and a password
of at least six characters, counted as Unicode scalar values and not trimmed. -/
def CreateInput.checks (input : CreateInput) : List (Bool × AppError) :=
  ((Text.trimWhiteSpace input.username).isEmpty, .invalidInput "Username cannot be empty") ::
    personChecks input.email input.firstName input.lastName ++
    [(decide (input.password.length < minPasswordLength), passwordTooShort)]

/-- **The checks of an update**, in order: the person, then a new password, when one is given and
not empty, of at least six characters. -/
def UpdateInput.checks (input : UpdateInput) : List (Bool × AppError) :=
  personChecks input.email input.firstName input.lastName ++
    [(input.password.any fun p => !p.isEmpty && decide (p.length < minPasswordLength),
      passwordTooShort)]

/-- The person of a new user, as stored. -/
def CreateInput.person (input : CreateInput) : Person :=
  Person.ofFields input.email input.firstName input.middleName input.lastName

/-- The person of an update, as stored. -/
def UpdateInput.person (input : UpdateInput) : Person :=
  Person.ofFields input.email input.firstName input.middleName input.lastName

theorem firstRefusal_invalidInput {checks : List (Bool × AppError)}
    (h : ∀ q ∈ checks, ∃ m, q.2 = .invalidInput m) {e : AppError} (he : firstRefusal checks = some e) :
    ∃ m, e = .invalidInput m := by
  obtain ⟨q, hq, rfl⟩ := Option.map_eq_some_iff.mp he
  exact h q (List.mem_of_find?_eq_some hq)

/-- **A person is checked** in the order of `personChecks`, and then stored in its stored form. -/
theorem validatePerson_eq (email firstName : String) (middleName : Option String)
    (lastName : String) :
    validatePerson email firstName middleName lastName =
      match firstRefusal (personChecks email firstName lastName) with
      | some e => .error e
      | none => .ok (Person.ofFields email firstName middleName lastName) := by
  unfold validatePerson firstRefusal personChecks
  cases h₁ : Mail.isValidAddress email
  case false => simp
  cases h₂ : (Text.trimWhiteSpace firstName).isEmpty
  case true => simp_all
  cases h₃ : (Text.trimWhiteSpace lastName).isEmpty
  case true => simp_all
  simp_all [Person.ofFields]

namespace Directory

/-! ## The calls, check by check -/

/-- **Creating a user**: its checks; then the user name looked up, a user already having it being
refused; then the password hashed; then the user stored. -/
theorem createUser_eq (d : Directory) (actor : String) (input : CreateInput) :
    d.createUser actor input =
      match firstRefusal input.checks with
      | some e => .error e
      | none =>
        match d.store.findByUsername (Text.trimWhiteSpace input.username) with
        | .error e => .error e
        | .ok (some _) => .error (.invalidInput "User is already registered")
        | .ok none =>
          match d.hashNext input.password with
          | .error e => .error e
          | .ok (hash, d₁) =>
            match d₁.store.create ⟨Text.trimWhiteSpace input.username, input.person.email,
                input.person.firstName, input.person.middleName, input.person.lastName, hash,
                actor⟩ with
            | .error e => .error e
            | .ok (profile, store) => .ok (profile, { d₁ with store := store }) := by
  unfold createUser
  rw [validatePerson_eq]
  unfold CreateInput.checks firstRefusal personChecks
  simp only [bind, Except.bind, throw, throwThe, MonadExceptOf.throw, pure, Except.pure,
    isValidPassword]
  cases h₀ : (Text.trimWhiteSpace input.username).isEmpty
  case true => simp
  cases h₁ : Mail.isValidAddress input.email
  case false => simp
  cases h₂ : (Text.trimWhiteSpace input.firstName).isEmpty
  case true => simp
  cases h₃ : (Text.trimWhiteSpace input.lastName).isEmpty
  case true => simp
  by_cases h₄ : input.password.length < minPasswordLength
  · simp [h₄]
  simp [h₄]
  -- every check passed: the lookup, the hash and the write follow in this order
  cases d.store.findByUsername (Text.trimWhiteSpace input.username) with
  | error e => rfl
  | ok found =>
    cases found with
    | some c => rfl
    | none =>
      cases d.hashNext input.password with
      | error e => rfl
      | ok r =>
        obtain ⟨hash, d₁⟩ := r
        simp only [CreateInput.person, Option.isSome_none, Bool.false_eq_true, if_false]
        cases d₁.store.create _ with
        | error e => rfl
        | ok written => rfl

/-- **Updating a user**: its checks; then a new password, when one is given and not empty,
hashed; then the user changed, keeping the hash when no password is given. -/
theorem updateUser_eq (d : Directory) (actor : String) (id : Uuid) (input : UpdateInput) :
    d.updateUser actor id input =
      match firstRefusal input.checks with
      | some e => .error e
      | none =>
        match input.password.filter (!·.isEmpty) with
        | some p =>
          match d.hashNext p with
          | .error e => .error e
          | .ok (hash, d₁) =>
            match d₁.store.update id ⟨input.person.email, input.person.firstName,
                input.person.middleName, input.person.lastName, some hash, actor⟩ with
            | .error e => .error e
            | .ok (profile, store) => .ok (profile, { d₁ with store := store })
        | none =>
          match d.store.update id ⟨input.person.email, input.person.firstName,
              input.person.middleName, input.person.lastName, none, actor⟩ with
          | .error e => .error e
          | .ok (profile, store) => .ok (profile, { d with store := store }) := by
  unfold updateUser
  rw [validatePerson_eq]
  unfold UpdateInput.checks firstRefusal personChecks
  simp only [bind, Except.bind, throw, throwThe, MonadExceptOf.throw, pure, Except.pure,
    isValidPassword]
  cases h₁ : Mail.isValidAddress input.email
  case false => simp
  cases h₂ : (Text.trimWhiteSpace input.firstName).isEmpty
  case true => simp
  cases h₃ : (Text.trimWhiteSpace input.lastName).isEmpty
  case true => simp
  -- the person passed: what follows turns on the password given
  cases hp : input.password with
  | none =>
    simp only [UpdateInput.person, Option.filter_none, Option.any_none]
    simp
    cases d.store.update _ _ with
    | error e => rfl
    | ok written => rfl
  | some p =>
    by_cases hempty : p = ""
    · subst hempty
      simp [UpdateInput.person]
      cases d.store.update _ _ with
      | error e => rfl
      | ok written => rfl
    have hfilter : (some p).filter (fun x => !x.isEmpty) = some p := by
      simpa [Option.filter, String.isEmpty_iff] using hempty
    replace hempty : p.isEmpty = false := by simpa [String.isEmpty_iff] using hempty
    rw [hfilter]
    by_cases hshort : p.length < minPasswordLength
    · simp [hempty, hshort]
    simp [hempty, hshort, UpdateInput.person]
    cases d.hashNext p with
    | error e => rfl
    | ok r =>
      obtain ⟨hash, d₁⟩ := r
      dsimp only [Except.map]
      cases d₁.store.update _ _ with
      | error e => rfl
      | ok written => rfl

/-! ## Refusals that never reach the store -/

theorem createChecks_invalidInput (input : CreateInput) :
    ∀ q ∈ input.checks, ∃ m, q.2 = .invalidInput m := by
  simp [CreateInput.checks, personChecks, passwordTooShort]

theorem updateChecks_invalidInput (input : UpdateInput) :
    ∀ q ∈ input.checks, ∃ m, q.2 = .invalidInput m := by
  simp [UpdateInput.checks, personChecks, passwordTooShort]

/-- **A new user refused by its checks is refused alike by every directory**: the store is not
read, so the refusal says nothing of the users it holds. -/
theorem createUser_of_firstRefusal {input : CreateInput} {e : AppError}
    (h : firstRefusal input.checks = some e) (d : Directory) (actor : String) :
    d.createUser actor input = .error e := by
  rw [createUser_eq, h]

/-- **An update refused by its checks is refused alike for every id and every directory.** -/
theorem updateUser_of_firstRefusal {input : UpdateInput} {e : AppError}
    (h : firstRefusal input.checks = some e) (d : Directory) (actor : String) (id : Uuid) :
    d.updateUser actor id input = .error e := by
  rw [updateUser_eq, h]

end Directory

/-- **The fixture store refuses an update only when no user has the id**, and then as not
found. -/
theorem Fixture.update_eq_error_iff {f : Fixture} {id : Uuid} {ch : UserChanges} {e : AppError} :
    f.update id ch = .error e ↔ e = .notFound ∧ ∀ c ∈ f.users, c.profile.id ≠ id := by
  unfold Fixture.update
  split
  · rename_i hnone
    have hno : ∀ c ∈ f.users, c.profile.id ≠ id := by simpa using List.find?_eq_none.mp hnone
    constructor
    · intro h
      exact ⟨(Except.error.inj h).symm, hno⟩
    · rintro ⟨rfl, -⟩
      rfl
  · rename_i c hc
    have hid : c.profile.id = id := by simpa using List.find?_some hc
    simp only [reduceCtorEq, false_iff, not_and]
    exact fun _ hno => hno c (List.mem_of_find?_eq_some hc) hid

namespace Directory

/-- **The account calls check their input first, in a fixed order.** Creating a user reports
the first failing check of: a user name that trims to nothing, an invalid address, a first and
then a last name that trim to nothing, a password of fewer than six characters; then a user
already having the (trimmed) user name; then a failed hash; then the store's refusal. Updating a
user reports the first of: an invalid address, an empty first and then last name, a given,
non-empty password of fewer than six characters; then a failed hash; then the store's refusal,
which in the fixture store is "not found" exactly when no user has the id. A refusal of the input
is an invalid input and is the same whatever the store holds and whatever the id: the store is
not read, so whether a user name is taken is not revealed. -/
theorem accountCalls_check_order (d : Directory) (actor : String) (id : Uuid) (ci : CreateInput)
    (ui : UpdateInput) :
    d.createUser actor ci =
      (match firstRefusal ci.checks with
      | some e => .error e
      | none =>
        match d.store.findByUsername (Text.trimWhiteSpace ci.username) with
        | .error e => .error e
        | .ok (some _) => .error (.invalidInput "User is already registered")
        | .ok none =>
          match d.hashNext ci.password with
          | .error e => .error e
          | .ok (hash, d₁) =>
            match d₁.store.create ⟨Text.trimWhiteSpace ci.username, ci.person.email,
                ci.person.firstName, ci.person.middleName, ci.person.lastName, hash, actor⟩ with
            | .error e => .error e
            | .ok (profile, store) => .ok (profile, { d₁ with store := store })) ∧
    d.updateUser actor id ui =
      (match firstRefusal ui.checks with
      | some e => .error e
      | none =>
        match ui.password.filter (!·.isEmpty) with
        | some p =>
          match d.hashNext p with
          | .error e => .error e
          | .ok (hash, d₁) =>
            match d₁.store.update id ⟨ui.person.email, ui.person.firstName, ui.person.middleName,
                ui.person.lastName, some hash, actor⟩ with
            | .error e => .error e
            | .ok (profile, store) => .ok (profile, { d₁ with store := store })
        | none =>
          match d.store.update id ⟨ui.person.email, ui.person.firstName, ui.person.middleName,
              ui.person.lastName, none, actor⟩ with
          | .error e => .error e
          | .ok (profile, store) => .ok (profile, { d with store := store })) ∧
    (∀ e, firstRefusal ci.checks = some e →
      (∃ m, e = .invalidInput m) ∧ ∀ d' : Directory, d'.createUser actor ci = .error e) ∧
    (∀ e, firstRefusal ui.checks = some e →
      (∃ m, e = .invalidInput m) ∧ ∀ (d' : Directory) (id' : Uuid), d'.updateUser actor id' ui = .error e) ∧
    (∀ (f : Fixture) (ch : UserChanges) (e : AppError),
      f.update id ch = .error e ↔ e = .notFound ∧ ∀ c ∈ f.users, c.profile.id ≠ id) :=
  ⟨createUser_eq d actor ci, updateUser_eq d actor id ui,
    fun _ h => ⟨firstRefusal_invalidInput (createChecks_invalidInput ci) h,
      fun d' => createUser_of_firstRefusal h d' actor⟩,
    fun _ h => ⟨firstRefusal_invalidInput (updateChecks_invalidInput ui) h,
      fun d' id' => updateUser_of_firstRefusal h d' actor id'⟩,
    fun _ _ _ => Fixture.update_eq_error_iff⟩

/-- An input that fails several checks is refused by the first: a blank user name before a bad
address on create, even with no store to reach; a bad address before an unknown id on update. -/
theorem accountCalls_check_order_first_failure :
    let ci : CreateInput := ⟨" ", "alice", "", none, "", "x"⟩
    let ui : UpdateInput := ⟨"alice", "", none, "", some "x"⟩
    let d : Directory := ⟨.offline, 4, ⟨⟨[0x6B]⟩, ⟨⟨[0x6B]⟩, TokenPolicy.default⟩⟩, 0⟩
    firstRefusal ci.checks = some (.invalidInput "Username cannot be empty") ∧
      firstRefusal ui.checks = some (.invalidInput "Invalid email address") ∧
      d.createUser "admin" ci = .error (.invalidInput "Username cannot be empty") ∧
      { d with store := .fixture Fixture.empty }.updateUser "admin" ⟨7⟩ ui =
        .error (.invalidInput "Invalid email address") := by
  intro ci ui d
  have hc : firstRefusal ci.checks = some (.invalidInput "Username cannot be empty") := by decide
  have hu : firstRefusal ui.checks = some (.invalidInput "Invalid email address") := by decide
  have h := accountCalls_check_order d "admin" ⟨7⟩ ci ui
  exact ⟨hc, hu, (h.2.2.1 _ hc).2 d, (h.2.2.2.1 _ hu).2 _ _⟩

end Directory

end Backoffice
