import Mathlib.Data.List.Nodup
import Backoffice.User.Accounts

/-! # Distinct user names and addresses

What one write of the fixture store does to its users' user names and e-mail addresses, and
that the account calls change a store through one such write each.

* **`UserStore.Writes`** — a write that succeeded: a create, an update or a delete, with any
  arguments. `createUser_writes`, `updateUser_writes` and `deleteUser_writes` say each account
  call that succeeds writes the store once and otherwise only reads it.
* **The fixture.** A create and a delete keep user names and addresses distinct. An update keeps
  the user names, but it does not look at the address: it leaves two users with one address
  exactly when the new address is another user's (`Fixture.Distinct.update_iff`). -/

namespace Backoffice

/-- **Replacing the address of the user `id`** keeps the addresses pairwise distinct exactly
when no other user has the new one, for users with distinct ids and addresses. -/
theorem nodup_replaceEmail_iff {L : List UserCredentials} (hids : (L.map (·.profile.id)).Nodup)
    (hemails : (L.map (·.profile.email)).Nodup) {id : Uuid} (hmem : ∃ c ∈ L, c.profile.id = id)
    (e : String) :
    (L.map fun c => if c.profile.id = id then e else c.profile.email).Nodup ↔
      ∀ c ∈ L, c.profile.id ≠ id → c.profile.email ≠ e := by
  rw [List.nodup_map_iff_inj_on (hids.of_map _)]
  constructor
  · rintro hinj c hc hne rfl
    obtain ⟨d, hd, rfl⟩ := hmem
    have hcd : c = d := hinj c hc d hd (by simp [hne])
    exact hne (congrArg (·.profile.id) hcd)
  · intro hfree x hx y hy hxy
    -- the two users may each be the one whose address is replaced
    by_cases hxid : x.profile.id = id <;> by_cases hyid : y.profile.id = id
    · exact List.inj_on_of_nodup_map hids hx hy (hxid.trans hyid.symm)
    · simp only [hxid, hyid, if_true, if_false] at hxy
      exact absurd hxy.symm (hfree y hy hyid)
    · simp only [hxid, hyid, if_true, if_false] at hxy
      exact absurd hxy (hfree x hx hxid)
    · simp only [hxid, hyid, if_false] at hxy
      exact List.inj_on_of_nodup_map hemails hx hy hxy

/-- Appending a user keeps a field pairwise distinct when no user had the new user's value. -/
theorem nodup_map_append_singleton {β : Type} (f : UserCredentials → β) {L : List UserCredentials}
    (hL : (L.map f).Nodup) (x : UserCredentials) (hx : ∀ c ∈ L, f c ≠ f x) :
    ((L ++ [x]).map f).Nodup := by
  rw [List.map_append, List.map_singleton]
  refine List.nodup_append.2 ⟨hL, List.nodup_singleton _, ?_⟩
  rintro a ha b hb
  obtain ⟨c, hc, rfl⟩ := List.mem_map.1 ha
  rw [List.mem_singleton.1 hb]
  exact hx c hc

/-- Taking users away keeps a field pairwise distinct. -/
theorem nodup_map_filter {β : Type} (f : UserCredentials → β) (q : UserCredentials → Bool)
    {L : List UserCredentials} (hL : (L.map f).Nodup) : ((L.filter q).map f).Nodup :=
  hL.sublist (List.filter_sublist.map f)

/-! ## Writes to a user store -/

theorem exceptMap_eq_ok {ε α β : Type} {f : α → β} {x : Except ε α} {y : β} :
    x.map f = .ok y ↔ ∃ a, x = .ok a ∧ f a = y := by
  cases x <;> simp [Except.map]

namespace UserStore

/-- **A write to a store that succeeded**: a create, an update or a delete, with any arguments.
A write that fails leaves the store as it was. -/
inductive Writes (s : UserStore) : UserStore → Prop
  | create {u : NewUser} {p : UserProfile} {s' : UserStore} : s.create u = .ok (p, s') → Writes s s'
  | update {id : Uuid} {ch : UserChanges} {p : UserProfile} {s' : UserStore} :
      s.update id ch = .ok (p, s') → Writes s s'
  | delete {id : Uuid} {s' : UserStore} : s.delete id = .ok ((), s') → Writes s s'

end UserStore

/-! ## The account calls write once -/

namespace Directory

theorem hashNext_store {d : Directory} {password : String} {r : String × Directory}
    (h : d.hashNext password = .ok r) : r.2.store = d.store := by
  obtain ⟨_, -, rfl⟩ := exceptMap_eq_ok.1 h
  rfl

variable {d d' : Directory} {actor : String} {p : UserProfile}

/-- A user created: the checks read the store, the hash moves the salt, and the store is
written once. -/
theorem createUser_writes {input : CreateInput} (h : d.createUser actor input = .ok (p, d')) :
    d.store.Writes d'.store := by
  unfold createUser at h
  simp only [bind, Except.bind, pure, Except.pure, throw, throwThe, MonadExceptOf.throw] at h
  repeat' split at h
  all_goals cases h
  rename_i hhash _ _ hcreate
  rw [← hashNext_store hhash]
  exact .create hcreate

/-- A user updated: the hash, when a password is given, moves the salt, and the store is written
once. -/
theorem updateUser_writes {id : Uuid} {input : UpdateInput}
    (h : d.updateUser actor id input = .ok (p, d')) : d.store.Writes d'.store := by
  unfold updateUser at h
  simp only [bind, Except.bind, pure, Except.pure, throw, throwThe, MonadExceptOf.throw] at h
  repeat' split at h
  all_goals cases h
  -- a new password: the hash moves the salt before the write
  · rename_i hhash _ _ hupdate
    obtain ⟨r, hr, rfl⟩ := exceptMap_eq_ok.1 hhash
    rw [← hashNext_store hr]
    exact .update hupdate
  -- the hash kept
  · rename_i hupdate
    exact .update hupdate

/-- A user deleted: the store is written once. -/
theorem deleteUser_writes {id : Uuid} (h : d.deleteUser id = .ok d') :
    d.store.Writes d'.store := by
  unfold deleteUser at h
  simp only [bind, Except.bind, pure, Except.pure] at h
  repeat' split at h
  all_goals cases h
  rename_i hdelete
  exact .delete hdelete

end Directory

/-! ## The fixture -/

namespace Fixture

/-- **The users are told apart** by their user names and by their addresses. -/
structure Distinct (f : Fixture) : Prop where
  usernames : (f.users.map (·.profile.username)).Nodup
  emails : (f.users.map (·.profile.email)).Nodup

instance (f : Fixture) : Decidable f.Distinct :=
  decidable_of_iff ((f.users.map (·.profile.username)).Nodup ∧ (f.users.map (·.profile.email)).Nodup)
    ⟨fun ⟨hu, he⟩ => ⟨hu, he⟩, fun h => ⟨h.usernames, h.emails⟩⟩

section Writes

variable {f f' : Fixture} {p : UserProfile}

theorem create_eq_ok {u : NewUser} (h : f.create u = .ok (p, f')) :
    (∀ c ∈ f.users, c.profile.username ≠ u.username ∧ c.profile.email ≠ u.email) ∧
      f'.users = f.users ++ [⟨p, u.passwordHash⟩] ∧ p.username = u.username ∧ p.email = u.email := by
  unfold create at h
  split at h
  · cases h
  · rename_i hfree
    simp only [List.any_eq_true, Bool.or_eq_true, beq_iff_eq, not_exists, not_and, not_or] at hfree
    simp only [freshId] at h
    cases h
    exact ⟨hfree, rfl, rfl, rfl⟩

theorem update_eq_ok {id : Uuid} {ch : UserChanges} (h : f.update id ch = .ok (p, f')) :
    ∃ c ∈ f.users, c.profile.id = id ∧ p = c.profile.withChanges ch ∧
      f'.users = f.users.map fun x =>
        if x.profile.id == id then ⟨p, ch.passwordHash.getD c.passwordHash⟩ else x := by
  unfold update at h
  split at h
  · cases h
  · rename_i c hc
    cases h
    have hid := List.find?_some hc
    exact ⟨c, List.mem_of_find?_eq_some hc, by simpa using hid, rfl, rfl⟩

theorem delete_eq_ok {id : Uuid} (h : f.delete id = .ok f') :
    f'.users = f.users.filter fun c => c.profile.id != id := by
  unfold delete at h
  split at h
  · cases h
    rfl
  · cases h

end Writes

section Distinct

variable {f f' : Fixture} {p : UserProfile}

/-- A create refuses a user name or address any user has. -/
theorem Distinct.create (h : f.Distinct) {u : NewUser} (hc : f.create u = .ok (p, f')) :
    f'.Distinct := by
  obtain ⟨hfree, hf', hname, hemail⟩ := create_eq_ok hc
  constructor <;> rw [hf']
  · exact nodup_map_append_singleton _ h.usernames _ fun c hc => hname ▸ (hfree c hc).1
  · exact nodup_map_append_singleton _ h.emails _ fun c hc => hemail ▸ (hfree c hc).2

/-- A delete only takes users away. -/
theorem Distinct.delete (h : f.Distinct) {id : Uuid} (hd : f.delete id = .ok f') : f'.Distinct := by
  have hf' := delete_eq_ok hd
  constructor <;> rw [hf']
  · exact nodup_map_filter _ _ h.usernames
  · exact nodup_map_filter _ _ h.emails

variable {id : Uuid} {ch : UserChanges}

/-- An update keeps the user names of users with distinct ids: only the user `id` changes, and
it keeps its own name. -/
theorem usernames_update (hids : (f.users.map (·.profile.id)).Nodup)
    (hu : f.update id ch = .ok (p, f')) :
    f'.users.map (·.profile.username) = f.users.map (·.profile.username) := by
  obtain ⟨c, hc, hcid, rfl, hf'⟩ := update_eq_ok hu
  rw [hf', List.map_map]
  refine List.map_congr_left fun x hx => ?_
  by_cases hxid : x.profile.id = id
  · -- the one user with the id `id` is the one found
    have hxc : x = c := List.inj_on_of_nodup_map hids hx hc (hxid.trans hcid.symm)
    rw [hxc]
    simp [hcid, UserProfile.withChanges]
  · simp [hxid]

/-- An update gives the user `id` the new address and leaves the others' as they are. -/
theorem emails_update (hu : f.update id ch = .ok (p, f')) :
    f'.users.map (·.profile.email) =
      f.users.map fun x => if x.profile.id = id then ch.email else x.profile.email := by
  obtain ⟨c, -, -, rfl, hf'⟩ := update_eq_ok hu
  rw [hf', List.map_map]
  refine List.map_congr_left fun x _ => ?_
  by_cases hxid : x.profile.id = id <;> simp [hxid, UserProfile.withChanges]

/-- **An update does not look at the address**: over users with distinct ids, user names and
addresses, it keeps them distinct exactly when no other user has the new address. -/
theorem Distinct.update_iff (hids : (f.users.map (·.profile.id)).Nodup) (h : f.Distinct)
    (hu : f.update id ch = .ok (p, f')) :
    f'.Distinct ↔ ∀ c ∈ f.users, c.profile.id ≠ id → c.profile.email ≠ ch.email := by
  obtain ⟨c, hc, hcid, -⟩ := update_eq_ok hu
  rw [← nodup_replaceEmail_iff hids h.emails ⟨c, hc, hcid⟩ ch.email, ← emails_update hu]
  constructor
  · exact fun h' => h'.emails
  · intro hemails
    exact ⟨(usernames_update hids hu) ▸ h.usernames, hemails⟩

end Distinct

end Fixture

end Backoffice
