import Mathlib.Data.Nat.ModEq
import Backoffice.Proofs.AccountChecks
import Backoffice.Proofs.DistinctUsers
import Backoffice.Proofs.Refresh

/-! # Writes to the fixture store

What the account calls do to the users of the fixture store, and what a refused call does: nothing.

* **Ids.** The fixture draws its ids from a counter, the `k`-th being `Fixture.drawnId k`; draws
  below 2^62 are distinct (`drawnId_inj`). **`Fixture.Keyed`** says no two users share an id and
  every id was drawn before the counter; the empty fixture is keyed, and seeding and every write
  keep it so.
* **One write, one user.** Among users keyed by id, an update changes the user `id` in place and a
  delete removes it and no other (`update_in_place`, `delete_in_place`); a create appends a user
  whose id is the next draw, so a fresh one.
* **The calls, inverted.** `createUser_eq_ok`, `updateUser_eq_ok` and `deleteUser_eq_ok` say all
  that a successful call did, from the chain equations of the account checks; over the fixture
  they give `createUser_fixture`, `updateUser_fixture` and `deleteUser_fixture`.
* **A refusal changes nothing.** Every action that succeeds answers below 400, and the service
  answers a refusal with the state it had (`respond_of_error_status`).

Main statement: `fixtureWrites_touch_only_target`. -/

namespace Backoffice

namespace Fixture

/-! ## Ids -/

/-- **The `k`-th id of the generator.** -/
def drawnId (k : Nat) : Uuid := Uuid.version4 (k * 0x9E3779B97F4A7C15)

/-- A random-form UUID keeps the low 62 bits of its number. -/
theorem version4_value_mod (n : Nat) :
    (Uuid.version4 n).value % Nat.pow 2 62 = n % Nat.pow 2 62 := by
  unfold Uuid.version4
  generalize n / Nat.pow 2 62 % Nat.pow 2 60 = high
  simp only [Nat.pow_eq]
  omega

/-- **Draws below 2^62 are distinct ids**: the multiplier is odd, so it permutes the residues
modulo 2^62, which the id keeps. -/
theorem drawnId_inj {j k : Nat} (hj : j < Nat.pow 2 62) (hk : k < Nat.pow 2 62)
    (h : drawnId j = drawnId k) : j = k := by
  have hmod := congrArg (fun u : Uuid => u.value % Nat.pow 2 62) h
  simp only [drawnId, version4_value_mod] at hmod
  have hcop : Nat.gcd (Nat.pow 2 62) 0x9E3779B97F4A7C15 = 1 := by decide
  have heq : j ≡ k [MOD Nat.pow 2 62] := Nat.ModEq.cancel_right_of_coprime hcop hmod
  rwa [Nat.ModEq, Nat.mod_eq_of_lt hj, Nat.mod_eq_of_lt hk] at heq

/-- **Users keyed by id**, as a map from ids holds them. -/
structure Keyed (f : Fixture) : Prop where
  /-- No two users share an id. -/
  ids_nodup : (f.users.map (·.profile.id)).Nodup
  /-- Every id was drawn before the counter. -/
  drawn : ∀ c ∈ f.users, ∃ k < f.nextId, c.profile.id = drawnId k

theorem keyed_empty : empty.Keyed := ⟨List.nodup_nil, by simp [empty]⟩

variable {f f' : Fixture} {p : UserProfile}

/-- **The next draw is fresh**, while the counter stays below 2^62. -/
theorem Keyed.fresh (h : f.Keyed) (hn : f.nextId < Nat.pow 2 62) :
    ∀ c ∈ f.users, c.profile.id ≠ drawnId f.nextId := by
  intro c hc hid
  obtain ⟨k, hk, hck⟩ := h.drawn c hc
  have := drawnId_inj (hk.trans hn) hn (hck.symm.trans hid)
  omega

/-- A user appended under the next draw keeps the users keyed. -/
theorem Keyed.append (h : f.Keyed) (hn : f.nextId < Nat.pow 2 62) {c : UserCredentials}
    (hc : c.profile.id = drawnId f.nextId) :
    (Fixture.mk (f.users ++ [c]) (f.nextId + 1)).Keyed := by
  constructor
  · exact nodup_map_append_singleton _ h.ids_nodup _ fun x hx => hc ▸ h.fresh hn x hx
  · intro x hx
    rcases List.mem_append.mp hx with hx | hx
    · obtain ⟨k, hk, hxk⟩ := h.drawn x hx
      exact ⟨k, Nat.lt_succ_of_lt hk, hxk⟩
    · rw [List.mem_singleton.mp hx]
      exact ⟨f.nextId, Nat.lt_succ_self _, hc⟩

/-- Users whose ids are some of a keyed store's, in order, under the same counter, are keyed. -/
theorem Keyed.of_sublist (h : f.Keyed)
    (hsub : (f'.users.map (·.profile.id)).Sublist (f.users.map (·.profile.id)))
    (hn : f'.nextId = f.nextId) : f'.Keyed := by
  refine ⟨hsub.nodup h.ids_nodup, fun c hc => ?_⟩
  obtain ⟨x, hx, hxc⟩ := List.mem_map.mp (hsub.subset (List.mem_map_of_mem hc))
  obtain ⟨k, hk, hxk⟩ := h.drawn x hx
  exact ⟨k, hn ▸ hk, hxc ▸ hxk⟩

theorem add_eq (c : UserCredentials) :
    f.add c = ({ c.profile with id := drawnId f.nextId },
      ⟨f.users ++ [⟨{ c.profile with id := drawnId f.nextId }, c.passwordHash⟩], f.nextId + 1⟩) :=
  rfl

/-- **Seeding keeps the users keyed.** -/
theorem Keyed.add (h : f.Keyed) (hn : f.nextId < Nat.pow 2 62) (c : UserCredentials) :
    (f.add c).2.Keyed := by
  rw [add_eq]
  exact h.append hn rfl

/-! ## One write, one user -/

/-- **A create, inverted**: no user has the user name or the address; the new user has the next
draw for its id and the fixed stamps, and is appended. -/
theorem create_eq_ok_iff {u : NewUser} :
    f.create u = .ok (p, f') ↔
      (∀ c ∈ f.users, c.profile.username ≠ u.username ∧ c.profile.email ≠ u.email) ∧
      p = ⟨drawnId f.nextId, u.username, u.email, u.firstName, u.middleName, u.lastName,
        some DateTime.newYear2025, some DateTime.newYear2025⟩ ∧
      f' = ⟨f.users ++ [⟨p, u.passwordHash⟩], f.nextId + 1⟩ := by
  unfold create
  split
  · rename_i htaken
    simp only [reduceCtorEq, false_iff, not_and]
    intro hfree
    obtain ⟨c, hc, hcu⟩ := List.any_eq_true.mp htaken
    simp only [Bool.or_eq_true, beq_iff_eq] at hcu
    have := hfree c hc
    tauto
  · rename_i hfree
    simp only [List.any_eq_true, Bool.or_eq_true, beq_iff_eq, not_exists, not_and, not_or] at hfree
    simp only [freshId, drawnId, Except.ok.injEq, Prod.mk.injEq]
    constructor
    · rintro ⟨rfl, rfl⟩
      exact ⟨hfree, rfl, rfl⟩
    · rintro ⟨-, rfl, rfl⟩
      exact ⟨rfl, rfl⟩

/-- **The one user with an id**, among users keyed by id: the users around it have other ids. -/
theorem eq_append_of_find? {L : List UserCredentials} {id : Uuid} {c : UserCredentials}
    (hids : (L.map (·.profile.id)).Nodup) (hc : L.find? (fun x => x.profile.id == id) = some c) :
    ∃ l₁ l₂, L = l₁ ++ c :: l₂ ∧ c.profile.id = id ∧ ∀ x ∈ l₁ ++ l₂, x.profile.id ≠ id := by
  obtain ⟨hcid, l₁, l₂, rfl, hl₁⟩ := List.find?_eq_some_iff_append.mp hc
  have hcid : c.profile.id = id := by simpa using hcid
  refine ⟨l₁, l₂, rfl, hcid, fun x hx => ?_⟩
  rcases List.mem_append.mp hx with hx | hx
  · simpa using hl₁ x hx
  · -- a later user with the id would repeat the found user's
    rw [List.map_append, List.map_cons] at hids
    have hnot := (List.nodup_cons.mp (List.nodup_append.mp hids).2.1).1
    intro hxid
    have hmem : x.profile.id ∈ l₂.map (·.profile.id) := List.mem_map_of_mem hx
    rw [hxid, ← hcid] at hmem
    exact hnot hmem

/-- A change of the user `id` keeps the users with other ids. -/
theorem map_of_ne {l : List UserCredentials} {id : Uuid} (g : UserCredentials → UserCredentials)
    (hl : ∀ x ∈ l, x.profile.id ≠ id) :
    l.map (fun x => if x.profile.id == id then g x else x) = l := by
  conv_rhs => rw [← List.map_id l]
  exact List.map_congr_left fun x hx => by simp [hl x hx]

variable {id : Uuid}

/-- **An update changes the user `id` in place**, among users keyed by id. -/
theorem update_in_place {ch : UserChanges} (hids : (f.users.map (·.profile.id)).Nodup)
    (hu : f.update id ch = .ok (p, f')) :
    ∃ l₁ c l₂, f.users = l₁ ++ c :: l₂ ∧ c.profile.id = id ∧
      (∀ x ∈ l₁ ++ l₂, x.profile.id ≠ id) ∧ p = c.profile.withChanges ch ∧
      f' = ⟨l₁ ++ ⟨p, ch.passwordHash.getD c.passwordHash⟩ :: l₂, f.nextId⟩ := by
  unfold update at hu
  split at hu
  · cases hu
  · rename_i c hc
    obtain ⟨l₁, l₂, hL, hcid, hother⟩ := eq_append_of_find? hids hc
    cases hu
    refine ⟨l₁, c, l₂, hL, hcid, hother, rfl, ?_⟩
    rw [hL, List.map_append, List.map_cons, map_of_ne _ fun x hx => hother x (by simp [hx]),
      map_of_ne _ fun x hx => hother x (by simp [hx])]
    simp [hcid]

/-- **A delete removes the user `id` and no other**, among users keyed by id. -/
theorem delete_in_place (hids : (f.users.map (·.profile.id)).Nodup) (hd : f.delete id = .ok f') :
    ∃ l₁ c l₂, f.users = l₁ ++ c :: l₂ ∧ c.profile.id = id ∧
      (∀ x ∈ l₁ ++ l₂, x.profile.id ≠ id) ∧ f' = ⟨l₁ ++ l₂, f.nextId⟩ := by
  unfold delete at hd
  split at hd
  · rename_i hany
    cases hd
    obtain ⟨c, hc⟩ : ∃ c, f.users.find? (fun x => x.profile.id == id) = some c :=
      Option.isSome_iff_exists.mp (List.find?_isSome.mpr (List.any_eq_true.mp hany))
    obtain ⟨l₁, l₂, hL, hcid, hother⟩ := eq_append_of_find? hids hc
    refine ⟨l₁, c, l₂, hL, hcid, hother, ?_⟩
    rw [hL, List.filter_append, List.filter_cons, if_neg (by simp [hcid]),
      List.filter_eq_self.mpr fun x hx => by simpa using hother x (by simp [hx]),
      List.filter_eq_self.mpr fun x hx => by simpa using hother x (by simp [hx])]
  · cases hd

theorem Keyed.create (h : f.Keyed) (hn : f.nextId < Nat.pow 2 62) {u : NewUser}
    (hc : f.create u = .ok (p, f')) : f'.Keyed := by
  obtain ⟨-, rfl, rfl⟩ := create_eq_ok_iff.mp hc
  exact h.append hn rfl

theorem Keyed.update (h : f.Keyed) {ch : UserChanges} (hu : f.update id ch = .ok (p, f')) :
    f'.Keyed := by
  obtain ⟨l₁, c, l₂, hL, -, -, rfl, rfl⟩ := update_in_place h.ids_nodup hu
  -- the changed user keeps its id
  refine h.of_sublist ?_ rfl
  rw [hL]
  simp [UserProfile.withChanges]

theorem Keyed.delete (h : f.Keyed) (hd : f.delete id = .ok f') : f'.Keyed := by
  obtain ⟨l₁, c, l₂, hL, -, -, rfl⟩ := delete_in_place h.ids_nodup hd
  refine h.of_sublist ?_ rfl
  rw [hL]
  exact ((List.sublist_cons_self c l₂).append_left l₁).map _

end Fixture

namespace Directory

/-! ## The account calls, inverted -/

variable {d d' : Directory} {actor : String} {p : UserProfile}

theorem hashNext_eq_ok {pw hash : String} {d₁ : Directory} :
    d.hashNext pw = .ok (hash, d₁) ↔
      hashPassword pw d.cost (saltOf d.saltSeed) = .ok hash ∧
        d₁ = { d with saltSeed := d.saltSeed + 1 } := by
  unfold hashNext
  cases hashPassword pw d.cost (saltOf d.saltSeed) <;> simp [Except.map, eq_comm]

/-- **A user created**: the checks passed, the user name was free, the password was hashed with
the next salt, and the user was stored. -/
theorem createUser_eq_ok {input : CreateInput} (h : d.createUser actor input = .ok (p, d')) :
    firstRefusal input.checks = none ∧
      d.store.findByUsername (Text.trimWhiteSpace input.username) = .ok none ∧
      ∃ hash store, hashPassword input.password d.cost (saltOf d.saltSeed) = .ok hash ∧
        d.store.create ⟨Text.trimWhiteSpace input.username, input.person.email,
          input.person.firstName, input.person.middleName, input.person.lastName, hash, actor⟩ =
          .ok (p, store) ∧
        d' = { d with store := store, saltSeed := d.saltSeed + 1 } := by
  rw [createUser_eq] at h
  split at h
  · cases h
  rename_i hr
  split at h
  · cases h
  · cases h
  rename_i hf
  split at h
  · cases h
  rename_i hash d₁ hh
  obtain ⟨hhash, rfl⟩ := hashNext_eq_ok.mp hh
  split at h
  · cases h
  rename_i p' store hc
  cases h
  exact ⟨hr, hf, hash, store, hhash, hc, rfl⟩

/-- **A user updated**: the checks passed, a new password (given and not empty) was hashed with
the next salt, and the store changed the user, keeping the hash when no password was given. -/
theorem updateUser_eq_ok {id : Uuid} {input : UpdateInput}
    (h : d.updateUser actor id input = .ok (p, d')) :
    firstRefusal input.checks = none ∧
      ∃ hash? store, d.store.update id ⟨input.person.email, input.person.firstName,
          input.person.middleName, input.person.lastName, hash?, actor⟩ = .ok (p, store) ∧
        ((input.password.filter (!·.isEmpty) = none ∧ hash? = none ∧
            d' = { d with store := store }) ∨
          (∃ pw hash, input.password.filter (!·.isEmpty) = some pw ∧
            hashPassword pw d.cost (saltOf d.saltSeed) = .ok hash ∧ hash? = some hash ∧
            d' = { d with store := store, saltSeed := d.saltSeed + 1 })) := by
  rw [updateUser_eq] at h
  split at h
  · cases h
  rename_i hr
  refine ⟨hr, ?_⟩
  split at h
  · rename_i pw hpw
    split at h
    · cases h
    rename_i hash d₁ hh
    obtain ⟨hhash, rfl⟩ := hashNext_eq_ok.mp hh
    split at h
    · cases h
    rename_i p' store hu
    cases h
    exact ⟨some hash, store, hu, .inr ⟨pw, hash, hpw, hhash, rfl, rfl⟩⟩
  · rename_i hpw
    split at h
    · cases h
    rename_i p' store hu
    cases h
    exact ⟨none, store, hu, .inl ⟨hpw, rfl, rfl⟩⟩

theorem deleteUser_eq_ok {id : Uuid} :
    d.deleteUser id = .ok d' ↔
      ∃ store, d.store.delete id = .ok ((), store) ∧ d' = { d with store := store } := by
  unfold deleteUser
  cases d.store.delete id with
  | error e => simp [bind, Except.bind]
  | ok r =>
    obtain ⟨⟨⟩, store⟩ := r
    simp [bind, Except.bind, pure, Except.pure, eq_comm]

/-! ## The account calls on the fixture -/

variable {f : Fixture} {id : Uuid}

/-- **A user created in the fixture**: no user had the user name or the address; the new user,
under the next draw and stamped at the fixture's time, is appended with the hash of its password
under the next salt. -/
theorem createUser_fixture (hd : d.store = .fixture f) {input : CreateInput}
    (h : d.createUser actor input = .ok (p, d')) :
    ∃ hash, hashPassword input.password d.cost (saltOf d.saltSeed) = .ok hash ∧
      (∀ c ∈ f.users, c.profile.username ≠ Text.trimWhiteSpace input.username ∧
        c.profile.email ≠ input.person.email) ∧
      p = ⟨Fixture.drawnId f.nextId, Text.trimWhiteSpace input.username, input.person.email,
        input.person.firstName, input.person.middleName, input.person.lastName,
        some DateTime.newYear2025, some DateTime.newYear2025⟩ ∧
      d' = { d with
        store := .fixture ⟨f.users ++ [⟨p, hash⟩], f.nextId + 1⟩, saltSeed := d.saltSeed + 1 } := by
  obtain ⟨-, -, hash, store, hhash, hc, rfl⟩ := createUser_eq_ok h
  rw [hd] at hc
  obtain ⟨⟨p', f'⟩, hfc, he⟩ := exceptMap_eq_ok.mp hc
  cases he
  obtain ⟨hfree, rfl, rfl⟩ := Fixture.create_eq_ok_iff.mp hfc
  exact ⟨hash, hhash, hfree, rfl, rfl⟩

/-- **A user updated in the fixture**, among users keyed by id: the user `id` takes the new
address and names and keeps its id, user name and stamps; its hash is that of the new password
under the next salt when one is given, and is kept otherwise. No other user changes. -/
theorem updateUser_fixture (hd : d.store = .fixture f) (hids : (f.users.map (·.profile.id)).Nodup)
    {input : UpdateInput} (h : d.updateUser actor id input = .ok (p, d')) :
    ∃ l₁ c l₂ hash, f.users = l₁ ++ c :: l₂ ∧ c.profile.id = id ∧
      (∀ x ∈ l₁ ++ l₂, x.profile.id ≠ id) ∧
      p = { c.profile with
        email := input.person.email, firstName := input.person.firstName,
        middleName := input.person.middleName, lastName := input.person.lastName } ∧
      (∃ seed, d' = { d with
        store := .fixture ⟨l₁ ++ ⟨p, hash⟩ :: l₂, f.nextId⟩, saltSeed := seed }) ∧
      (∀ pw, input.password.filter (!·.isEmpty) = some pw →
        hashPassword pw d.cost (saltOf d.saltSeed) = .ok hash) ∧
      (input.password.filter (!·.isEmpty) = none → hash = c.passwordHash) := by
  obtain ⟨-, hash?, store, hu, hcase⟩ := updateUser_eq_ok h
  rw [hd] at hu
  obtain ⟨⟨p', f'⟩, hfu, he⟩ := exceptMap_eq_ok.mp hu
  cases he
  obtain ⟨l₁, c, l₂, hL, hcid, hother, rfl, rfl⟩ := Fixture.update_in_place hids hfu
  refine ⟨l₁, c, l₂, hash?.getD c.passwordHash, hL, hcid, hother, rfl, ?_⟩
  rcases hcase with ⟨hpw, rfl, rfl⟩ | ⟨pw, hash, hpw, hhash, rfl, rfl⟩
  · -- no new password: the hash is kept
    exact ⟨⟨d.saltSeed, rfl⟩, fun _ h' => by simp [hpw] at h', fun _ => rfl⟩
  · exact ⟨⟨d.saltSeed + 1, rfl⟩, fun pw' h' => by rw [hpw] at h'; cases h'; exact hhash,
      fun h' => by simp [hpw] at h'⟩

/-- **A user deleted from the fixture**, among users keyed by id: exactly the user `id` is
removed. -/
theorem deleteUser_fixture (hd : d.store = .fixture f) (hids : (f.users.map (·.profile.id)).Nodup)
    (h : d.deleteUser id = .ok d') :
    ∃ l₁ c l₂, f.users = l₁ ++ c :: l₂ ∧ c.profile.id = id ∧
      (∀ x ∈ l₁ ++ l₂, x.profile.id ≠ id) ∧
      d' = { d with store := .fixture ⟨l₁ ++ l₂, f.nextId⟩ } := by
  obtain ⟨store, hs, rfl⟩ := deleteUser_eq_ok.mp h
  rw [hd] at hs
  obtain ⟨f', hfd, he⟩ := exceptMap_eq_ok.mp hs
  cases he
  obtain ⟨l₁, c, l₂, hL, hcid, hother, rfl⟩ := Fixture.delete_in_place hids hfd
  exact ⟨l₁, c, l₂, hL, hcid, hother, rfl⟩

end Directory

/-! ## A refusal changes nothing -/

@[simp] theorem Http.Response.json_status (status : Nat) (v : JsonValue) :
    (Http.Response.json status v).status = status := rfl

@[simp] theorem Http.Response.empty_status (status : Nat) :
    (Http.Response.empty status).status = status := rfl

/-- **Every refusal is answered with a status of 400 or above.** -/
theorem AppError.le_response_status (e : AppError) : 400 ≤ e.response.status := by
  cases e <;> simp [AppError.response]

namespace Api.Service

variable {s s' : Service} {now : Int} {req : Http.Request}

/-- **An action that succeeds answers below 400**: with 200, 201 or 204. -/
theorem perform_ok_status {actor : String} {a : Action} {r : Http.Response}
    (h : s.perform now actor req a = .ok (r, s')) : r.status < 400 := by
  cases a <;>
    simp only [perform, bind, Except.bind, pure, Except.pure, throw, throwThe,
      MonadExceptOf.throw] at h <;>
    (repeat' split at h) <;> cases h <;> simp [textResponse]

/-- An action answered with 400 or above leaves the service as it was. -/
theorem serve_of_error_status {e : Endpoint} {a : Action}
    (h : 400 ≤ (s.serve now e a req).1.status) : (s.serve now e a req).2 = s := by
  unfold serve at h ⊢
  cases hi : (if e.isGated then s.identify now req else .ok "") with
  | error err => simp only [bind, Except.bind]
  | ok actor =>
    simp only [hi, bind, Except.bind] at h ⊢
    cases hp : s.perform now actor req a with
    | error err => rfl
    | ok r =>
      rw [hp] at h
      exact absurd h (Nat.not_le.mpr (perform_ok_status hp))

/-- **A request answered with 400 or above leaves the service as it was.** -/
theorem respond_of_error_status (h : 400 ≤ (s.respond now req).1.status) :
    (s.respond now req).2 = s := by
  unfold respond at h ⊢
  generalize Endpoint.ofPath? req.route = route at h ⊢
  cases route with
  | none => rfl
  | some e =>
    by_cases hm : (Method.ofName req.method == Method.options) = true
    · simp only [hm, if_true]
    · simp only [hm, Bool.false_eq_true, if_false] at h ⊢
      generalize e.action? (Method.ofName req.method) = action at h ⊢
      cases action with
      | none => rfl
      | some a =>
        -- the action's answer keeps its status through the headers and the finish
        simp only [finishAt_status, withGuards_status, withCors_status] at h
        exact serve_of_error_status h

end Api.Service

/-! ## Atomic writes that touch only their target -/

namespace Directory

/-- **Account writes on the fixture are atomic and touch only their target.** A refused call is
answered with its error's response, of status 400 or above, and a request so answered leaves the
service, and so every user's profile and hash, as it was.
Over users keyed by id: a create that succeeds appends one user under a fresh id, stamped at the
fixture's time, with the hash of its password, and changes no other user; an update that succeeds
changes the user `id` in place, in its address and names and, exactly when a non-empty password is
given, in its hash, keeping its id, user name and stamps, and changes no other user; a delete that
succeeds removes exactly the user `id`. -/
theorem fixtureWrites_touch_only_target (d : Directory) (f : Fixture) (hd : d.store = .fixture f)
    (hk : f.Keyed) (hn : f.nextId < Nat.pow 2 62) (actor : String) (id : Uuid) (ci : CreateInput)
    (ui : UpdateInput) :
    (∀ e : AppError, 400 ≤ e.response.status) ∧
    (∀ (s : Api.Service) (now : Int) (req : Http.Request),
      400 ≤ (s.respond now req).1.status → (s.respond now req).2 = s) ∧
    (∀ p d', d.createUser actor ci = .ok (p, d') →
      ∃ hash, hashPassword ci.password d.cost (saltOf d.saltSeed) = .ok hash ∧
        p.id ∉ f.users.map (·.profile.id) ∧
        p = ⟨p.id, Text.trimWhiteSpace ci.username, ci.person.email, ci.person.firstName,
          ci.person.middleName, ci.person.lastName, some DateTime.newYear2025,
          some DateTime.newYear2025⟩ ∧
        d'.store = .fixture ⟨f.users ++ [⟨p, hash⟩], f.nextId + 1⟩) ∧
    (∀ p d', d.updateUser actor id ui = .ok (p, d') →
      ∃ l₁ c l₂ hash, f.users = l₁ ++ c :: l₂ ∧ c.profile.id = id ∧
        p = { c.profile with
          email := ui.person.email, firstName := ui.person.firstName,
          middleName := ui.person.middleName, lastName := ui.person.lastName } ∧
        d'.store = .fixture ⟨l₁ ++ ⟨p, hash⟩ :: l₂, f.nextId⟩ ∧
        (∀ pw, ui.password.filter (!·.isEmpty) = some pw →
          hashPassword pw d.cost (saltOf d.saltSeed) = .ok hash) ∧
        (ui.password.filter (!·.isEmpty) = none → hash = c.passwordHash)) ∧
    (∀ d', d.deleteUser id = .ok d' →
      ∃ l₁ c l₂, f.users = l₁ ++ c :: l₂ ∧ c.profile.id = id ∧
        d'.store = .fixture ⟨l₁ ++ l₂, f.nextId⟩) := by
  refine ⟨AppError.le_response_status, fun s now req h => Api.Service.respond_of_error_status h,
    ?_, ?_, ?_⟩
  · intro p d' h
    obtain ⟨hash, hhash, -, rfl, rfl⟩ := createUser_fixture hd h
    -- the new id is the next draw, which no user has
    have hfresh : Fixture.drawnId f.nextId ∉ f.users.map (·.profile.id) := by
      simpa using hk.fresh hn
    exact ⟨hash, hhash, hfresh, rfl, rfl⟩
  · intro p d' h
    obtain ⟨l₁, c, l₂, hash, hL, hcid, -, rfl, ⟨seed, rfl⟩, hnew, hkeep⟩ :=
      updateUser_fixture hd hk.ids_nodup h
    exact ⟨l₁, c, l₂, hash, hL, hcid, rfl, rfl, hnew, hkeep⟩
  · intro d' h
    obtain ⟨l₁, c, l₂, hL, hcid, -, rfl⟩ := deleteUser_fixture hd hk.ids_nodup h
    exact ⟨l₁, c, l₂, hL, hcid, rfl⟩

/-- A fixture seeded with one user is keyed, and deleting that user leaves it empty. -/
theorem fixtureWrites_touch_only_target_seeded :
    let f := (Fixture.empty.add (Fixture.sampleUser "alice" "h")).2
    let d : Directory := ⟨.fixture f, 4, ⟨⟨[0x6B]⟩, ⟨⟨[0x6B]⟩, TokenPolicy.default⟩⟩, 0⟩
    f.Keyed ∧ f.nextId < Nat.pow 2 62 ∧
      ∃ d', d.deleteUser (Fixture.drawnId 1) = .ok d' ∧ d'.store = .fixture ⟨[], 2⟩ := by
  intro f d
  have hk : f.Keyed := Fixture.keyed_empty.add (by decide) _
  have hn : f.nextId < Nat.pow 2 62 := by decide
  have hdel : d.deleteUser (Fixture.drawnId 1) = .ok { d with store := .fixture ⟨[], 2⟩ } := by
    refine deleteUser_eq_ok.mpr ⟨_, ?_, rfl⟩
    simp [d, f, UserStore.delete, Fixture.delete, Fixture.add_eq, Fixture.empty, Except.map]
  refine ⟨hk, hn, _, hdel, ?_⟩
  obtain ⟨-, -, -, -, hdelete⟩ :=
    fixtureWrites_touch_only_target d f rfl hk hn "admin" (Fixture.drawnId 1)
      ⟨"alice", "alice@example.com", "A", none, "B", "secret1"⟩
      ⟨"alice@example.com", "A", none, "B", none⟩
  obtain ⟨l₁, c, l₂, hL, -, hs⟩ := hdelete _ hdel
  -- one user, so nothing stands around it
  obtain ⟨rfl, rfl⟩ : l₁ = [] ∧ l₂ = [] := by
    have hlen : (l₁ ++ c :: l₂).length = 1 := by rw [← hL]; rfl
    simp only [List.length_append, List.length_cons] at hlen
    exact ⟨List.eq_nil_of_length_eq_zero (by omega), List.eq_nil_of_length_eq_zero (by omega)⟩
  exact hs

end Directory

end Backoffice
