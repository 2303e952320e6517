import Backoffice.Proofs.FixtureWrites
import Backoffice.Proofs.BcryptHash

/-! # The fixture's users as a set of live users

Over the fixture store, the account calls behave as a set of live users, each known by the last
write that touched it.

* **Runs.** An `AccountWrite` is a create, an update or a delete with its arguments;
  `Directory.afterWrites` runs a list of them, a refused write leaving the directory as it was.
  Reads change nothing, so this is every sequence of calls. `Directory.lastWrite` reads, off the
  writes and their answers only, what the run says of one user: untouched, written (the profile
  the last write returned, with the last non-empty password given for it), or deleted.
* **The invariant** (`Fixture.Sound`): users keyed by id, with distinct user names. Each write
  keeps it and keeps the store in agreement with the last write of every id
  (`LastWrite.Holds`); by induction, so does every run (`run_holds`).
* **Observations.** In a sound fixture, a user's profile is found by its id, listed once among
  profiles strictly ordered by user name, and found by its user name; signing in checks the
  password against the user's hash; a user name no user has is refused as bad credentials.

Main statement: `fixtureRuns_track_live_users`. -/

namespace Backoffice

/-- **A write of the user directory**: a create, an update or a delete, with its arguments. -/
inductive AccountWrite where
  | create (actor : String) (input : CreateInput)
  | update (actor : String) (id : Uuid) (input : UpdateInput)
  | delete (id : Uuid)

/-- **What a run says of one user**: no write touched it; the last write to touch it returned
the profile `p`, and `password` is the last non-empty password given for it by a write; or the
last write to touch it deleted it. -/
inductive LastWrite where
  | untouched
  | written (p : UserProfile) (password : Option String)
  | deleted

namespace Directory

/-- **A write's answer**: the profile written (none for a delete), and the directory after it. -/
def write (d : Directory) : AccountWrite → Except AppError (Option UserProfile × Directory)
  | .create actor input => (d.createUser actor input).map fun (p, d) => (some p, d)
  | .update actor id input => (d.updateUser actor id input).map fun (p, d) => (some p, d)
  | .delete id => (d.deleteUser id).map fun d => (none, d)

/-- **The directory after a write**: a refused write leaves it as it was. -/
def afterWrite (d : Directory) (w : AccountWrite) : Directory :=
  match d.write w with
  | .ok (_, d') => d'
  | .error _ => d

/-- The directory after a run of writes. -/
def afterWrites (d : Directory) (ws : List AccountWrite) : Directory := ws.foldl afterWrite d

end Directory

namespace LastWrite

/-- The last non-empty password given for a written user. -/
def password : LastWrite → Option String
  | written _ pw => pw
  | _ => none

/-- **What a write's answer says of user `id`**: a create that returned a profile with the id, an
update or a delete of the id that succeeded, is its new last write. -/
def after (id : Uuid) (t : LastWrite) : AccountWrite → Except AppError (Option UserProfile) →
    LastWrite
  | .create _ input, .ok (some p) => if p.id = id then written p (some input.password) else t
  | .update _ id' input, .ok (some p) =>
    if id' = id then written p ((input.password.filter (!·.isEmpty)).or t.password) else t
  | .delete id', .ok _ => if id' = id then deleted else t
  | _, _ => t

end LastWrite

/-- **The last write of user `id`** in a run of writes from `d`, read off their answers. -/
def Directory.lastWrite (id : Uuid) : Directory → List AccountWrite → LastWrite → LastWrite
  | _, [], t => t
  | d, w :: ws, t =>
    lastWrite id (d.afterWrite w) ws (t.after id w ((d.write w).map (·.1)))

/-! ## Observations of a sound fixture -/

namespace Fixture

/-- **A sound fixture**: users keyed by id, with distinct user names. -/
structure Sound (f : Fixture) : Prop where
  keyed : f.Keyed
  /-- No two users share a user name. -/
  usernames : (f.users.map (·.profile.username)).Nodup

/-- Among users with distinct keys, a member is the one found by its key. -/
theorem find?_key_of_mem {β : Type} [BEq β] [LawfulBEq β] (key : UserCredentials → β)
    {L : List UserCredentials} (h : (L.map key).Nodup) {c : UserCredentials} (hc : c ∈ L) :
    L.find? (fun x => key x == key c) = some c := by
  obtain ⟨x, hx⟩ : ∃ x, L.find? (fun x => key x == key c) = some x :=
    Option.isSome_iff_exists.mp (List.find?_isSome.mpr ⟨c, hc, by simp⟩)
  have hkey : key x = key c := by simpa using List.find?_some hx
  rw [hx, List.inj_on_of_nodup_map h (List.mem_of_find?_eq_some hx) hc hkey]

variable {f : Fixture} {c : UserCredentials}

/-- **A user is listed once**: the profiles are those of users with distinct ids, in another
order. -/
theorem count_sortedProfiles (hids : (f.users.map (·.profile.id)).Nodup) (hc : c ∈ f.users) :
    f.sortedProfiles.count c.profile = 1 := by
  have hnodup : (f.users.map (·.profile)).Nodup :=
    List.Nodup.of_map (·.id) (by rw [List.map_map]; exact hids)
  unfold sortedProfiles
  rw [(List.mergeSort_perm _ _).count_eq, hnodup.count, if_pos (List.mem_map_of_mem hc)]

/-- **The profiles are listed in strictly increasing order of user name**, the user names being
distinct. -/
theorem sortedProfiles_strict (hnames : (f.users.map (·.profile.username)).Nodup) :
    f.sortedProfiles.Pairwise (·.username < ·.username) := by
  have hsorted : f.sortedProfiles.Pairwise (fun a b => decide (a.username ≤ b.username) = true) :=
    List.pairwise_mergeSort
      (fun a b c hab hbc => by
        simp only [decide_eq_true_eq] at hab hbc ⊢
        exact le_trans hab hbc)
      (fun a b => by simpa using le_total a.username b.username) _
  -- the sorted profiles are the users' in another order, so their user names stay distinct
  have hdistinct : f.sortedProfiles.Pairwise (fun a b => a.username ≠ b.username) := by
    have hperm := (List.mergeSort_perm (f.users.map (·.profile))
      fun a b => decide (a.username ≤ b.username)).map (·.username)
    rw [List.map_map] at hperm
    exact List.pairwise_map.mp (hperm.nodup_iff.mpr hnames)
  exact (hsorted.and hdistinct).imp fun ⟨hle, hne⟩ => lt_of_le_of_ne (by simpa using hle) hne

end Fixture

namespace Directory

variable {d : Directory} {f : Fixture} {c : UserCredentials} {id : Uuid}

theorem getUser_of_mem (hd : d.store = .fixture f) (hids : (f.users.map (·.profile.id)).Nodup)
    (hc : c ∈ f.users) : d.getUser c.profile.id = .ok c.profile := by
  simp [getUser, UserStore.getById, hd, Fixture.find?_key_of_mem _ hids hc, bind, Except.bind,
    pure, Except.pure]

theorem getUser_of_forall_ne (hd : d.store = .fixture f) (h : ∀ c ∈ f.users, c.profile.id ≠ id) :
    d.getUser id = .error .notFound := by
  have hnone : f.users.find? (fun c => c.profile.id == id) = none :=
    List.find?_eq_none.mpr fun c hc => by simpa using h c hc
  simp [getUser, UserStore.getById, hd, hnone, bind, Except.bind, throw, throwThe,
    MonadExceptOf.throw]

theorem findByUsername_of_mem (hd : d.store = .fixture f)
    (hnames : (f.users.map (·.profile.username)).Nodup) (hc : c ∈ f.users) :
    d.store.findByUsername c.profile.username = .ok (some c) := by
  rw [hd, UserStore.findByUsername, Fixture.find?_key_of_mem _ hnames hc]

theorem findByUsername_eq_none {u : String} (hd : d.store = .fixture f) :
    d.store.findByUsername u = .ok none ↔ ∀ c ∈ f.users, c.profile.username ≠ u := by
  rw [hd, UserStore.findByUsername, Except.ok.injEq, List.find?_eq_none]
  simp

theorem userInfo_of_mem (hd : d.store = .fixture f)
    (hnames : (f.users.map (·.profile.username)).Nodup) (hc : c ∈ f.users) :
    d.userInfo c.profile.username = .ok c.profile := by
  simp [userInfo, findByUsername_of_mem hd hnames hc, bind, Except.bind, pure, Except.pure]

/-- **A user name no user has** is not found by the profile lookup, and is refused at sign-in as
bad credentials. -/
theorem userInfo_login_of_unknown {u : String} (hd : d.store = .fixture f)
    (h : ∀ c ∈ f.users, c.profile.username ≠ u) (q : String) (now : Int) :
    d.userInfo u = .error .notFound ∧ d.login u q now = .error .invalidCredentials := by
  have hnone := (findByUsername_eq_none hd).mpr h
  constructor
  · simp [userInfo, hnone, bind, Except.bind, throw, throwThe, MonadExceptOf.throw]
  · simp [login, hnone, bind, Except.bind, throw, throwThe, MonadExceptOf.throw]

theorem userInfo_eq_notFound_iff {u : String} (hd : d.store = .fixture f) :
    d.userInfo u = .error .notFound ↔ ∀ c ∈ f.users, c.profile.username ≠ u := by
  rw [← findByUsername_eq_none hd]
  cases hfind : d.store.findByUsername u with
  | error e =>
    -- the fixture's lookup does not fail
    rw [hd] at hfind
    cases hfind
  | ok found =>
    cases found <;>
      simp [userInfo, hfind, bind, Except.bind, pure, Except.pure, throw, throwThe,
        MonadExceptOf.throw]

/-- **Signing in as a user** checks the password against the user's hash: a refusal is bad
credentials, and an acceptance issues a pair for the user name. -/
theorem login_of_mem (hd : d.store = .fixture f)
    (hnames : (f.users.map (·.profile.username)).Nodup) (hc : c ∈ f.users) {q : String} {b : Bool}
    (hv : Bcrypt.verify q.toUTF8.toList c.passwordHash = .ok b) (now : Int) :
    d.login c.profile.username q now =
      if b then (d.tokens.issueAt c.profile.username now).mapError AppError.ofIssue
      else .error .invalidCredentials := by
  have hverify : verifyPassword q c.passwordHash = .ok b := by
    rw [verifyPassword, hv]
    rfl
  cases b <;>
    simp [login, findByUsername_of_mem hd hnames hc, hverify, bind, Except.bind, throw, throwThe,
      MonadExceptOf.throw]

theorem listUsers_fixture (hd : d.store = .fixture f) : d.listUsers = .ok f.sortedProfiles := by
  simp [listUsers, UserStore.list, hd]

end Directory

/-! ## A deleted user -/

namespace Directory

variable {d : Directory} {f : Fixture} {id : Uuid}

theorem deleteUser_of_forall_ne (hd : d.store = .fixture f)
    (h : ∀ c ∈ f.users, c.profile.id ≠ id) : d.deleteUser id = .error .notFound := by
  have hany : (f.users.any fun c => c.profile.id == id) = false :=
    List.any_eq_false.mpr fun c hc => by simpa using h c hc
  simp [deleteUser, UserStore.delete, hd, Fixture.delete, hany, bind, Except.bind, Except.map]

/-- At a cost bcrypt allows, hashing does not fail. -/
theorem hashNext_of_cost (hlo : Bcrypt.minCost ≤ d.cost) (hhi : d.cost ≤ Bcrypt.maxCost)
    (pw : String) : ∃ hash, d.hashNext pw = .ok (hash, { d with saltSeed := d.saltSeed + 1 }) := by
  have hcost : ¬(d.cost < Bcrypt.minCost ∨ d.cost > Bcrypt.maxCost) := by omega
  unfold hashNext hashPassword Bcrypt.hashWithSalt
  rw [if_neg hcost]
  exact ⟨_, rfl⟩

/-- **An update of an id no user has is not found**, once the input passes its checks and, when
a new password is given, it is hashed at a cost bcrypt allows. -/
theorem updateUser_of_forall_ne (hd : d.store = .fixture f)
    (h : ∀ c ∈ f.users, c.profile.id ≠ id) {input : UpdateInput}
    (hr : firstRefusal input.checks = none) (hlo : Bcrypt.minCost ≤ d.cost)
    (hhi : d.cost ≤ Bcrypt.maxCost) (actor : String) :
    d.updateUser actor id input = .error .notFound := by
  have hmissing : ∀ ch, f.update id ch = .error .notFound :=
    fun ch => Fixture.update_eq_error_iff.mpr ⟨rfl, h⟩
  rw [updateUser_eq, hr]
  dsimp only
  split
  · rename_i pw _
    obtain ⟨hash, hh⟩ := hashNext_of_cost hlo hhi pw
    simp [hh, UserStore.update, hd, hmissing, Except.map]
  · simp [UserStore.update, hd, hmissing, Except.map]

end Directory

/-! ## One write, then a run -/

namespace Fixture

variable {f : Fixture} {l₁ l₂ : List UserCredentials} {c : UserCredentials}

/-- A user appended under the next draw, with a user name no user has, keeps a fixture sound. -/
theorem Sound.append (hs : f.Sound) (hn : f.nextId < Nat.pow 2 62) {c' : UserCredentials}
    (hid : c'.profile.id = drawnId f.nextId)
    (hname : ∀ x ∈ f.users, x.profile.username ≠ c'.profile.username) :
    (Fixture.mk (f.users ++ [c']) (f.nextId + 1)).Sound :=
  ⟨hs.keyed.append hn hid, nodup_map_append_singleton _ hs.usernames _ hname⟩

/-- A user replaced by one with its id and user name keeps a fixture sound. -/
theorem Sound.replace (hs : f.Sound) (hL : f.users = l₁ ++ c :: l₂) (c' : UserCredentials)
    (hid : c'.profile.id = c.profile.id) (hname : c'.profile.username = c.profile.username) :
    (Fixture.mk (l₁ ++ c' :: l₂) f.nextId).Sound := by
  have hids : (l₁ ++ c' :: l₂).map (·.profile.id) = f.users.map (·.profile.id) := by
    simp [hL, hid]
  have hnames : (l₁ ++ c' :: l₂).map (·.profile.username) = f.users.map (·.profile.username) := by
    simp [hL, hname]
  refine ⟨hs.keyed.of_sublist ?_ rfl, ?_⟩
  · rw [hids]
  · rw [hnames]
    exact hs.usernames

/-- A user removed keeps a fixture sound. -/
theorem Sound.remove (hs : f.Sound) (hL : f.users = l₁ ++ c :: l₂) :
    (Fixture.mk (l₁ ++ l₂) f.nextId).Sound := by
  have hsub : (l₁ ++ l₂).Sublist f.users := hL ▸ (List.sublist_cons_self c l₂).append_left l₁
  exact ⟨hs.keyed.of_sublist (hsub.map _) rfl, (hsub.map _).nodup hs.usernames⟩

end Fixture

namespace LastWrite

/-- **The store agrees with the last write of user `id`**: nothing is asked of an untouched
user; a written one is a user of the store with the profile returned, whose hash is bcrypt's hash
of the last password given, if one was; a deleted one is no user of the store. -/
def Holds (id : Uuid) (f : Fixture) : LastWrite → Prop
  | untouched => True
  | written p pw => p.id = id ∧ ∃ c ∈ f.users, c.profile = p ∧
      ∀ q ∈ pw, ∃ cost seed, hashPassword q cost (Directory.saltOf seed) = .ok c.passwordHash
  | deleted => ∀ c ∈ f.users, c.profile.id ≠ id

variable {id : Uuid} {f f' : Fixture} {t : LastWrite}

/-- The agreement looks only at the users with the id. -/
theorem Holds.congr (ht : t.Holds id f)
    (h : ∀ x : UserCredentials, x.profile.id = id → (x ∈ f.users ↔ x ∈ f'.users)) :
    t.Holds id f' := by
  cases t with
  | untouched => trivial
  | written p pw =>
    obtain ⟨hpid, c, hc, rfl, hpw⟩ := ht
    exact ⟨hpid, c, (h c hpid).mp hc, rfl, hpw⟩
  | deleted => exact fun x hx hxid => ht x ((h x hxid).mpr hx) hxid

end LastWrite

namespace Directory

variable {d : Directory} {f : Fixture} {id : Uuid} {t : LastWrite}

theorem afterWrite_of_ok {w : AccountWrite} {a : Option UserProfile} {d' : Directory}
    (h : d.write w = .ok (a, d')) : d.afterWrite w = d' := by
  simp [afterWrite, h]

theorem afterWrite_of_error {w : AccountWrite} {e : AppError} (h : d.write w = .error e) :
    d.afterWrite w = d := by
  simp [afterWrite, h]

section Answers

variable {a : Option UserProfile} {d' : Directory} {actor : String}

theorem write_create_eq_ok {input : CreateInput} (h : d.write (.create actor input) = .ok (a, d')) :
    ∃ p, a = some p ∧ d.createUser actor input = .ok (p, d') := by
  rw [write, exceptMap_eq_ok] at h
  obtain ⟨⟨p, d''⟩, hc, he⟩ := h
  simp only [Prod.mk.injEq] at he
  obtain ⟨rfl, rfl⟩ := he
  exact ⟨p, rfl, hc⟩

theorem write_update_eq_ok {id' : Uuid} {input : UpdateInput}
    (h : d.write (.update actor id' input) = .ok (a, d')) :
    ∃ p, a = some p ∧ d.updateUser actor id' input = .ok (p, d') := by
  rw [write, exceptMap_eq_ok] at h
  obtain ⟨⟨p, d''⟩, hu, he⟩ := h
  simp only [Prod.mk.injEq] at he
  obtain ⟨rfl, rfl⟩ := he
  exact ⟨p, rfl, hu⟩

theorem write_delete_eq_ok {id' : Uuid} (h : d.write (.delete id') = .ok (a, d')) :
    a = none ∧ d.deleteUser id' = .ok d' := by
  rw [write, exceptMap_eq_ok] at h
  obtain ⟨d'', hdel, he⟩ := h
  simp only [Prod.mk.injEq] at he
  obtain ⟨rfl, rfl⟩ := he
  exact ⟨rfl, hdel⟩

end Answers

/-- A write changes neither the tokens nor the hashing cost. -/
theorem afterWrite_frame (w : AccountWrite) :
    (d.afterWrite w).tokens = d.tokens ∧ (d.afterWrite w).cost = d.cost := by
  cases hw : d.write w with
  | error e => rw [afterWrite_of_error hw]; exact ⟨rfl, rfl⟩
  | ok r =>
    obtain ⟨a, d'⟩ := r
    rw [afterWrite_of_ok hw]
    cases w with
    | create actor input =>
      obtain ⟨p, -, hc⟩ := write_create_eq_ok hw
      obtain ⟨-, -, -, -, -, -, rfl⟩ := createUser_eq_ok hc
      exact ⟨rfl, rfl⟩
    | update actor id input =>
      obtain ⟨p, -, hu⟩ := write_update_eq_ok hw
      obtain ⟨-, -, -, -, ⟨-, -, rfl⟩ | ⟨-, -, -, -, -, rfl⟩⟩ := updateUser_eq_ok hu <;>
        exact ⟨rfl, rfl⟩
    | delete id =>
      obtain ⟨-, hdel⟩ := write_delete_eq_ok hw
      obtain ⟨-, -, rfl⟩ := deleteUser_eq_ok.mp hdel
      exact ⟨rfl, rfl⟩

/-- **A create keeps the fixture sound and in agreement**: the new user is the last write of its
fresh id, and the users with any other id are as they were. -/
theorem holds_createUser (hd : d.store = .fixture f) (hs : f.Sound) (hn : f.nextId < Nat.pow 2 62)
    (ht : t.Holds id f) {actor : String} {input : CreateInput} {p : UserProfile} {d' : Directory}
    (hc : d.createUser actor input = .ok (p, d')) :
    ∃ f', d'.store = .fixture f' ∧ f'.Sound ∧ f'.nextId = f.nextId + 1 ∧
      (t.after id (.create actor input) (.ok (some p))).Holds id f' := by
  obtain ⟨hash, hhash, hfree, hp, rfl⟩ := createUser_fixture hd hc
  have hpid : p.id = Fixture.drawnId f.nextId := by rw [hp]
  refine ⟨_, rfl, hs.append hn hpid fun x hx => ?_, rfl, ?_⟩
  · rw [hp]
    exact (hfree x hx).1
  simp only [LastWrite.after]
  split
  · rename_i hid
    refine ⟨hid, ⟨p, hash⟩, by simp, rfl, fun q hq => ⟨d.cost, d.saltSeed, ?_⟩⟩
    obtain rfl : input.password = q := Option.some.inj (Option.mem_def.mp hq)
    exact hhash
  · -- another id: the appended user is not one of those with the id
    rename_i hid
    refine ht.congr fun x hx => ?_
    have hxp : x ≠ ⟨p, hash⟩ := by
      rintro rfl
      exact hid hx
    simp [hxp]

/-- **An update keeps the fixture sound and in agreement**: the changed user is the last write
of its id, its hash the new password's, or the one it had when none is given. -/
theorem holds_updateUser (hd : d.store = .fixture f) (hs : f.Sound) (ht : t.Holds id f)
    {actor : String} {id' : Uuid} {input : UpdateInput} {p : UserProfile} {d' : Directory}
    (hu : d.updateUser actor id' input = .ok (p, d')) :
    ∃ f', d'.store = .fixture f' ∧ f'.Sound ∧ f'.nextId = f.nextId ∧
      (t.after id (.update actor id' input) (.ok (some p))).Holds id f' := by
  obtain ⟨l₁, c, l₂, hash, hL, hcid, hother, hp, ⟨seed, rfl⟩, hnew, hkeep⟩ :=
    updateUser_fixture hd hs.keyed.ids_nodup hu
  have hpid : p.id = c.profile.id := by rw [hp]
  have hpname : p.username = c.profile.username := by rw [hp]
  refine ⟨_, rfl, hs.replace hL ⟨p, hash⟩ hpid hpname, rfl, ?_⟩
  simp only [LastWrite.after]
  split
  · rename_i hid
    subst hid
    refine ⟨hpid.trans hcid, ⟨p, hash⟩, by simp, rfl, fun q hq => ?_⟩
    cases hpw : input.password.filter (!·.isEmpty) with
    | some q' =>
      -- a new password: the hash is its own
      rw [hpw, Option.some_or] at hq
      obtain rfl : q' = q := Option.some.inj (Option.mem_def.mp hq)
      exact ⟨d.cost, d.saltSeed, hnew q' hpw⟩
    | none =>
      -- no new password: the hash is kept, and it is the one of the last password given
      rw [hpw, Option.none_or] at hq
      rw [hkeep hpw]
      cases t with
      | written p₀ pw₀ =>
        obtain ⟨hc₀id, c₀, hc₀, rfl, hpw₀⟩ := ht
        have hc₀c : c₀ = c := by
          by_contra hne
          rw [hL] at hc₀
          have hmem : c₀ ∈ l₁ ++ l₂ := by simpa [hne] using hc₀
          exact hother c₀ hmem hc₀id
        subst hc₀c
        exact hpw₀ q hq
      | untouched => cases hq
      | deleted => cases hq
  · -- another id: the changed user is not one of those with the id
    rename_i hid
    refine ht.congr fun x hx => ?_
    have hxc : x ≠ c := fun h => hid (hcid ▸ h ▸ hx)
    have hxp : x ≠ ⟨p, hash⟩ := by
      rintro rfl
      exact hid (hcid.symm.trans (hpid.symm.trans hx))
    simp [hL, hxc, hxp]

/-- **A delete keeps the fixture sound and in agreement**: the user `id` is gone. -/
theorem holds_deleteUser (hd : d.store = .fixture f) (hs : f.Sound) (ht : t.Holds id f)
    {id' : Uuid} {d' : Directory} (hdel : d.deleteUser id' = .ok d') :
    ∃ f', d'.store = .fixture f' ∧ f'.Sound ∧ f'.nextId = f.nextId ∧
      (t.after id (.delete id') (.ok none)).Holds id f' := by
  obtain ⟨l₁, c, l₂, hL, hcid, hother, rfl⟩ := deleteUser_fixture hd hs.keyed.ids_nodup hdel
  refine ⟨_, rfl, hs.remove hL, rfl, ?_⟩
  simp only [LastWrite.after]
  split
  · rename_i hid
    subst hid
    exact hother
  · rename_i hid
    refine ht.congr fun x hx => ?_
    have hxc : x ≠ c := fun h => hid (hcid ▸ h ▸ hx)
    simp [hL, hxc]

end Directory

namespace Directory

variable {d : Directory} {f : Fixture} {id : Uuid} {t : LastWrite}

/-- **One write keeps the fixture sound and in agreement with the last write of `id`**, while the
counter stays below 2^62. -/
theorem holds_afterWrite (hd : d.store = .fixture f) (hs : f.Sound) (hn : f.nextId < Nat.pow 2 62)
    (ht : t.Holds id f) (w : AccountWrite) :
    ∃ f', (d.afterWrite w).store = .fixture f' ∧ f'.Sound ∧ f'.nextId ≤ f.nextId + 1 ∧
      (t.after id w ((d.write w).map (·.1))).Holds id f' := by
  cases hw : d.write w with
  | error e =>
    -- a refused write changes nothing, and its answer says nothing
    rw [afterWrite_of_error hw]
    refine ⟨f, hd, hs, Nat.le_succ _, ?_⟩
    cases w <;> exact ht
  | ok r =>
    obtain ⟨a, d'⟩ := r
    rw [afterWrite_of_ok hw]
    cases w with
    | create actor input =>
      obtain ⟨p, rfl, hc⟩ := write_create_eq_ok hw
      obtain ⟨f', hd', hs', hn', ht'⟩ := holds_createUser hd hs hn ht hc
      exact ⟨f', hd', hs', hn'.le, ht'⟩
    | update actor id' input =>
      obtain ⟨p, rfl, hu⟩ := write_update_eq_ok hw
      obtain ⟨f', hd', hs', hn', ht'⟩ := holds_updateUser hd hs ht hu
      exact ⟨f', hd', hs', by omega, ht'⟩
    | delete id' =>
      obtain ⟨rfl, hdel⟩ := write_delete_eq_ok hw
      obtain ⟨f', hd', hs', hn', ht'⟩ := holds_deleteUser hd hs ht hdel
      exact ⟨f', hd', hs', by omega, ht'⟩

/-- **Every run keeps the fixture sound and in agreement with the last write of `id`**, while the
counter has room for its writes. By induction on the run, from `holds_afterWrite`. -/
theorem run_holds (id : Uuid) (ws : List AccountWrite) :
    ∀ {d : Directory} {f : Fixture} {t : LastWrite}, d.store = .fixture f → f.Sound →
      f.nextId + ws.length ≤ Nat.pow 2 62 → t.Holds id f →
      ∃ f', (d.afterWrites ws).store = .fixture f' ∧ f'.Sound ∧ (d.lastWrite id ws t).Holds id f' := by
  induction ws with
  | nil => exact fun hd hs _ ht => ⟨_, hd, hs, ht⟩
  | cons w ws ih =>
    intro d f t hd hs hn ht
    simp only [List.length_cons] at hn
    obtain ⟨f₁, hd₁, hs₁, hn₁, ht₁⟩ := holds_afterWrite hd hs (by omega) ht w
    exact ih hd₁ hs₁ (by omega) ht₁

/-- A run changes neither the tokens nor the hashing cost. -/
theorem afterWrites_frame (ws : List AccountWrite) :
    ∀ d : Directory, (d.afterWrites ws).tokens = d.tokens ∧ (d.afterWrites ws).cost = d.cost := by
  induction ws with
  | nil => exact fun d => ⟨rfl, rfl⟩
  | cons w ws ih =>
    intro d
    obtain ⟨htok, hcost⟩ := ih (d.afterWrite w)
    obtain ⟨htok₁, hcost₁⟩ := afterWrite_frame (d := d) w
    exact ⟨htok.trans htok₁, hcost.trans hcost₁⟩

/-! ## What the last write shows -/

variable {p : UserProfile} {pw : Option String}

/-- **A written user is seen as written**: found by its id and by its user name, and listed once
among profiles in strictly increasing order of user name. -/
theorem written_observed (hd : d.store = .fixture f) (hs : f.Sound)
    (ht : (LastWrite.written p pw).Holds id f) :
    d.getUser id = .ok p ∧
      (∃ ps, d.listUsers = .ok ps ∧ ps.count p = 1 ∧ ps.Pairwise (·.username < ·.username)) ∧
      d.userInfo p.username = .ok p := by
  obtain ⟨rfl, c, hc, rfl, -⟩ := ht
  exact ⟨getUser_of_mem hd hs.keyed.ids_nodup hc,
    ⟨_, listUsers_fixture hd, Fixture.count_sortedProfiles hs.keyed.ids_nodup hc,
      Fixture.sortedProfiles_strict hs.usernames⟩,
    userInfo_of_mem hd hs.usernames hc⟩

/-- **Signing in as a written user** whose last password given is `q`: bcrypt gives a verdict on
every password against the user's hash and accepts `q`, and the sign-in follows the verdict. -/
theorem written_login (hd : d.store = .fixture f) (hs : f.Sound) {q : String}
    (ht : (LastWrite.written p (some q)).Holds id f) (now : Int) :
    ∃ hash, Bcrypt.verify q.toUTF8.toList hash = .ok true ∧
      ∀ q', ∃ b, Bcrypt.verify q'.toUTF8.toList hash = .ok b ∧
        d.login p.username q' now =
          if b then (d.tokens.issueAt p.username now).mapError AppError.ofIssue
          else .error .invalidCredentials := by
  obtain ⟨-, c, hc, rfl, hpw⟩ := ht
  obtain ⟨cost, seed, hhash⟩ := hpw q rfl
  refine ⟨c.passwordHash, by rw [verify_hashPassword hhash q, beq_self_eq_true], fun q' => ?_⟩
  exact ⟨_, verify_hashPassword hhash q', login_of_mem hd hs.usernames hc
    (verify_hashPassword hhash q') now⟩

/-- **A written user deleted** is no longer found by its user name, nor can it sign in. -/
theorem written_then_deleted (hd : d.store = .fixture f) (hs : f.Sound)
    (ht : (LastWrite.written p pw).Holds id f) {d' : Directory} (hdel : d.deleteUser id = .ok d')
    (q : String) (now : Int) :
    d'.userInfo p.username = .error .notFound ∧ d'.login p.username q now = .error .invalidCredentials := by
  obtain ⟨hpid, c, hc, rfl, -⟩ := ht
  obtain ⟨l₁, c', l₂, hL, hc'id, hother, rfl⟩ := deleteUser_fixture hd hs.keyed.ids_nodup hdel
  refine userInfo_login_of_unknown rfl (fun x hx hname => ?_) q now
  -- the user names are distinct, so only the deleted user had this one
  have hxf : x ∈ f.users := by
    rw [hL]
    rcases List.mem_append.mp hx with h | h <;> simp [h]
  have hxc : x = c := List.inj_on_of_nodup_map hs.usernames hxf hc hname
  exact hother x hx (hxc ▸ hpid)

/-- **A deleted user is not found**: not by its id, not to delete again, and not to update with
an input that passes its checks, at a cost bcrypt allows. -/
theorem deleted_observed (hd : d.store = .fixture f) (ht : LastWrite.deleted.Holds id f) :
    d.getUser id = .error .notFound ∧ d.deleteUser id = .error .notFound ∧
      ∀ (actor : String) (input : UpdateInput), firstRefusal input.checks = none →
        Bcrypt.minCost ≤ d.cost → d.cost ≤ Bcrypt.maxCost →
        d.updateUser actor id input = .error .notFound :=
  ⟨getUser_of_forall_ne hd ht, deleteUser_of_forall_ne hd ht,
    fun actor _ hr hlo hhi => updateUser_of_forall_ne hd ht hr hlo hhi actor⟩

end Directory

namespace Directory

variable {d : Directory} {f : Fixture} {c : UserCredentials}

/-- **An update of a user of the fixture succeeds** once the input passes its checks, at a cost
bcrypt allows, and returns the user's profile with the new address and names. -/
theorem updateUser_of_mem (hd : d.store = .fixture f) (hids : (f.users.map (·.profile.id)).Nodup)
    (hc : c ∈ f.users) {input : UpdateInput} (hr : firstRefusal input.checks = none)
    (hlo : Bcrypt.minCost ≤ d.cost) (hhi : d.cost ≤ Bcrypt.maxCost) (actor : String) :
    ∃ d', d.updateUser actor c.profile.id input = .ok ({ c.profile with
      email := input.person.email, firstName := input.person.firstName,
      middleName := input.person.middleName, lastName := input.person.lastName }, d') := by
  have hfind := Fixture.find?_key_of_mem (·.profile.id) hids hc
  rw [updateUser_eq, hr]
  dsimp only
  split
  · rename_i pw _
    obtain ⟨hash, hh⟩ := hashNext_of_cost hlo hhi pw
    simp [hh, UserStore.update, hd, Fixture.update, hfind, Except.map, UserProfile.withChanges]
  · simp [UserStore.update, hd, Fixture.update, hfind, Except.map, UserProfile.withChanges]

end Directory

/-! ## Live users -/

namespace Directory

/-- **The fixture's users behave as a set of live users.** Take a fixture whose users are keyed
by id and have distinct user names, any run of account writes on it (reads change nothing, so
this is any sequence of calls), and any id. While the last write to touch the id is a create or
an update that returned `p`: the id gives `p`; the list holds `p` once and is strictly increasing
in user name; `p`'s user name gives `p`; and when a password `q` was last given for the user,
bcrypt gives a verdict on every password against the user's hash and accepts `q`. Signing in as
`p` with a password bcrypt accepts gives the pair of tokens for `p`'s user name, unless that name
is empty (a name only a seeded user can have), which the token issuer refuses; with a password
it refuses, the sign-in is refused as bad credentials, as for a user name no user has. Deleting
the user makes its user name unknown. While the last write is a delete, the id is not found: not
to get, to delete, or to update with an input that passes its checks at a cost bcrypt allows. -/
theorem fixtureRuns_track_live_users (d₀ : Directory) (f₀ : Fixture)
    (hd₀ : d₀.store = .fixture f₀) (hk : f₀.Keyed)
    (hnames : (f₀.users.map (·.profile.username)).Nodup) (ws : List AccountWrite)
    (hn : f₀.nextId + ws.length ≤ Nat.pow 2 62) (id : Uuid) (now : Int) :
    let d := d₀.afterWrites ws
    let i := d₀.tokens.issuer
    (∀ p pw, d₀.lastWrite id ws .untouched = .written p pw →
      d.getUser id = .ok p ∧
      (∃ ps, d.listUsers = .ok ps ∧ ps.count p = 1 ∧ ps.Pairwise (·.username < ·.username)) ∧
      d.userInfo p.username = .ok p ∧
      (∀ q, pw = some q → ∃ hash, Bcrypt.verify q.toUTF8.toList hash = .ok true ∧
        ∀ q', ∃ b, Bcrypt.verify q'.toUTF8.toList hash = .ok b ∧
          (b = true → p.username ≠ "" → d.login p.username q' now =
            .ok ⟨i.key.sign (i.claimsFor p.username now i.policy.accessTtl),
              i.key.sign (i.claimsFor p.username now i.policy.refreshTtl)⟩) ∧
          (b = true → p.username = "" → d.login p.username q' now =
            .error (.internal "Cannot issue a token for an empty identity")) ∧
          (b = false → d.login p.username q' now = .error .invalidCredentials)) ∧
      (∀ d', d.deleteUser id = .ok d' → d'.userInfo p.username = .error .notFound ∧
        ∀ q, d'.login p.username q now = .error .invalidCredentials)) ∧
    (d₀.lastWrite id ws .untouched = .deleted →
      d.getUser id = .error .notFound ∧ d.deleteUser id = .error .notFound ∧
      ∀ (actor : String) (input : UpdateInput), firstRefusal input.checks = none →
        Bcrypt.minCost ≤ d₀.cost → d₀.cost ≤ Bcrypt.maxCost →
        d.updateUser actor id input = .error .notFound) ∧
    (∀ u q, d.userInfo u = .error .notFound → d.login u q now = .error .invalidCredentials) := by
  intro d i
  obtain ⟨f, hd, hs, ht⟩ := run_holds id ws hd₀ ⟨hk, hnames⟩ hn (t := .untouched) trivial
  obtain ⟨htok, hcost⟩ := afterWrites_frame ws d₀
  refine ⟨fun p pw hlast => ?_, fun hlast => ?_, fun u q hu => ?_⟩
  · rw [hlast] at ht
    obtain ⟨hget, hlist, hinfo⟩ := written_observed hd hs ht
    refine ⟨hget, hlist, hinfo, fun q hq => ?_,
      fun d' hdel => ⟨(written_then_deleted hd hs ht hdel "" now).1,
        fun q => (written_then_deleted hd hs ht hdel q now).2⟩⟩
    subst hq
    obtain ⟨hash, hq, hverdict⟩ := written_login hd hs ht now
    refine ⟨hash, hq, fun q' => ?_⟩
    obtain ⟨b, hb, hlogin⟩ := hverdict q'
    refine ⟨b, hb, fun hbt hne => ?_, fun hbt hempty => ?_, fun hbf => ?_⟩
    · -- accepted, under a name the issuer takes
      rw [hlogin, hbt, if_pos rfl, htok, TokenService.issueAt, TokenIssuer.issueAt_of_ne_empty _ hne]
      rfl
    · -- accepted, under the empty name the issuer refuses
      rw [hlogin, hbt, if_pos rfl, hempty]
      rfl
    · rw [hlogin, hbf]
      rfl
  · rw [hlast] at ht
    obtain ⟨hget, hdel, hupd⟩ := deleted_observed hd ht
    exact ⟨hget, hdel, fun actor input hr hlo hhi => hupd actor input hr (hcost ▸ hlo) (hcost ▸ hhi)⟩
  · exact (userInfo_login_of_unknown hd ((userInfo_eq_notFound_iff hd).mp hu) q now).2

/-- A fixture seeded with Alice, in two runs. Deleting her makes her id not found, to get or to
delete. Giving her the password `secret1` by an update lets her sign in with it, and the pair she
gets is the one issued for her user name. -/
theorem fixtureRuns_track_live_users_seeded_alice :
    let f₀ := (Fixture.empty.add (Fixture.sampleUser "alice" "h")).2
    let d₀ : Directory := ⟨.fixture f₀, 4, ⟨⟨[0x6B]⟩, ⟨⟨[0x6B]⟩, TokenPolicy.default⟩⟩, 0⟩
    let i := d₀.tokens.issuer
    let del := [AccountWrite.delete (Fixture.drawnId 1)]
    let upd := [AccountWrite.update "admin" (Fixture.drawnId 1)
      ⟨"alice@example.com", "Alice", none, "User", some "secret1"⟩]
    f₀.Keyed ∧ (f₀.users.map (·.profile.username)).Nodup ∧
      f₀.nextId + del.length ≤ Nat.pow 2 62 ∧ f₀.nextId + upd.length ≤ Nat.pow 2 62 ∧
      (d₀.lastWrite (Fixture.drawnId 1) del .untouched = .deleted ∧
        (d₀.afterWrites del).getUser (Fixture.drawnId 1) = .error .notFound ∧
        (d₀.afterWrites del).deleteUser (Fixture.drawnId 1) = .error .notFound) ∧
      ∃ p, d₀.lastWrite (Fixture.drawnId 1) upd .untouched = .written p (some "secret1") ∧
        p.username = "alice" ∧
        (d₀.afterWrites upd).login "alice" "secret1" 1700000000 =
          .ok ⟨i.key.sign (i.claimsFor "alice" 1700000000 i.policy.accessTtl),
            i.key.sign (i.claimsFor "alice" 1700000000 i.policy.refreshTtl)⟩ := by
  intro f₀ d₀ i del upd
  have hf₀ : f₀ =
      ⟨[⟨{ (Fixture.sampleUser "alice" "h").profile with id := Fixture.drawnId 1 }, "h"⟩], 2⟩ :=
    rfl
  have hk : f₀.Keyed := Fixture.keyed_empty.add (by decide) _
  have hnames : (f₀.users.map (·.profile.username)).Nodup := by simp [hf₀]
  refine ⟨hk, hnames, by decide, by decide, ?_, ?_⟩
  · -- the run that deletes Alice
    have hdel : d₀.deleteUser (Fixture.drawnId 1) = .ok { d₀ with store := .fixture ⟨[], 2⟩ } := by
      refine deleteUser_eq_ok.mpr ⟨_, ?_, rfl⟩
      simp [d₀, f₀, UserStore.delete, Fixture.delete, Fixture.add_eq, Fixture.empty, Except.map]
    have hlast : d₀.lastWrite (Fixture.drawnId 1) del .untouched = .deleted := by
      simp [del, lastWrite, write, hdel, LastWrite.after, Except.map]
    obtain ⟨-, hgone, -⟩ :=
      fixtureRuns_track_live_users d₀ f₀ rfl hk hnames del (by decide) (Fixture.drawnId 1) 0
    obtain ⟨hget, hdel', -⟩ := hgone hlast
    exact ⟨hlast, hget, hdel'⟩
  · -- the run that gives Alice a password, then her sign-in with it
    have hr : firstRefusal
        (UpdateInput.checks ⟨"alice@example.com", "Alice", none, "User", some "secret1"⟩) = none := by
      decide
    obtain ⟨d₁, hupd⟩ := updateUser_of_mem (d := d₀)
      (c := ⟨{ (Fixture.sampleUser "alice" "h").profile with id := Fixture.drawnId 1 }, "h"⟩) rfl
      hk.ids_nodup (by simp [hf₀]) hr (by decide) (by decide) "admin"
    have hfilter : (some "secret1").filter (fun x : String => !x.isEmpty) = some "secret1" := by
      decide
    have hlast : d₀.lastWrite (Fixture.drawnId 1) upd .untouched =
        .written { (Fixture.sampleUser "alice" "h").profile with
          id := Fixture.drawnId 1,
          email :=
            (UpdateInput.person ⟨"alice@example.com", "Alice", none, "User", some "secret1"⟩).email,
          firstName :=
            (UpdateInput.person ⟨"alice@example.com", "Alice", none, "User", some "secret1"⟩).firstName,
          middleName :=
            (UpdateInput.person ⟨"alice@example.com", "Alice", none, "User", some "secret1"⟩).middleName,
          lastName :=
            (UpdateInput.person ⟨"alice@example.com", "Alice", none, "User", some "secret1"⟩).lastName }
          (some "secret1") := by
      simp only [upd, lastWrite, write, hupd, Except.map, LastWrite.after, if_pos, hfilter,
        Option.some_or]
    obtain ⟨hwritten, -, -⟩ :=
      fixtureRuns_track_live_users d₀ f₀ rfl hk hnames upd (by decide) (Fixture.drawnId 1) 1700000000
    obtain ⟨-, -, -, hpassword, -⟩ := hwritten _ _ hlast
    obtain ⟨hash, hq, hverdict⟩ := hpassword "secret1" rfl
    obtain ⟨b, hb, haccept, -, -⟩ := hverdict "secret1"
    -- the user's hash accepts the password she was given, so she signs in
    obtain rfl : b = true := Except.ok.inj (hb.symm.trans hq)
    exact ⟨_, hlast, rfl, haccept rfl (by decide)⟩

/-- **A user seeded with the empty user name cannot sign in**, not even with the password its
last update gave: bcrypt accepts that password against the hash the update wrote, and the token
issuer refuses the empty identity. -/
theorem emptyUsername_signIn_refused :
    let f₀ := (Fixture.empty.add (Fixture.sampleUser "" "h")).2
    let d₀ : Directory := ⟨.fixture f₀, 4, ⟨⟨[0x6B]⟩, ⟨⟨[0x6B]⟩, TokenPolicy.default⟩⟩, 0⟩
    let ws := [AccountWrite.update "admin" (Fixture.drawnId 1)
      ⟨"x@example.com", "A", none, "B", some "secret1"⟩]
    ∃ p hash, d₀.lastWrite (Fixture.drawnId 1) ws .untouched = .written p (some "secret1") ∧
      p.username = "" ∧ hashPassword "secret1" 4 (saltOf 0) = .ok hash ∧
      Bcrypt.verify "secret1".toUTF8.toList hash = .ok true ∧
      (d₀.afterWrites ws).login p.username "secret1" 1700000000 =
        .error (.internal "Cannot issue a token for an empty identity") := by
  intro f₀ d₀ ws
  have hf₀ : f₀ = ⟨[⟨{ (Fixture.sampleUser "" "h").profile with id := Fixture.drawnId 1 }, "h"⟩], 2⟩ :=
    rfl
  have hs : f₀.Sound := ⟨Fixture.keyed_empty.add (by decide) _, by simp [hf₀]⟩
  have hr : firstRefusal (UpdateInput.checks ⟨"x@example.com", "A", none, "B", some "secret1"⟩) =
      none := by
    decide
  obtain ⟨d₁, hupd⟩ := updateUser_of_mem (d := d₀)
    (c := ⟨{ (Fixture.sampleUser "" "h").profile with id := Fixture.drawnId 1 }, "h"⟩) rfl
    hs.keyed.ids_nodup (by simp [hf₀]) hr (by decide) (by decide) "admin"
  have hfilter : (some "secret1").filter (fun x : String => !x.isEmpty) = some "secret1" := by
    decide
  obtain ⟨hash, hh⟩ := hashNext_of_cost (d := d₀) (by decide) (by decide) "secret1"
  have hhash := (hashNext_eq_ok.mp hh).1
  -- the update is the last write of the id, and it gave the password
  have hlast : d₀.lastWrite (Fixture.drawnId 1) ws .untouched =
      .written { (Fixture.sampleUser "" "h").profile with
        id := Fixture.drawnId 1,
        email := (UpdateInput.person ⟨"x@example.com", "A", none, "B", some "secret1"⟩).email,
        firstName := (UpdateInput.person ⟨"x@example.com", "A", none, "B", some "secret1"⟩).firstName,
        middleName :=
          (UpdateInput.person ⟨"x@example.com", "A", none, "B", some "secret1"⟩).middleName,
        lastName := (UpdateInput.person ⟨"x@example.com", "A", none, "B", some "secret1"⟩).lastName }
        (some "secret1") := by
    simp only [ws, lastWrite, write, hupd, Except.map, LastWrite.after, if_pos, hfilter,
      Option.some_or]
  refine ⟨_, hash, hlast, rfl, hhash, by rw [verify_hashPassword hhash, beq_self_eq_true], ?_⟩
  obtain ⟨f, hd, hs', ht⟩ := run_holds (Fixture.drawnId 1) ws (d := d₀) rfl hs (by decide)
    (t := .untouched) trivial
  rw [hlast] at ht
  obtain ⟨hash', hq, hverdict⟩ := written_login hd hs' ht 1700000000
  obtain ⟨b, hb, hlogin⟩ := hverdict "secret1"
  -- the user's hash accepts the password, so the sign-in reaches the issuer
  obtain rfl : b = true := Except.ok.inj (hb.symm.trans hq)
  rw [hlogin, if_pos rfl, (afterWrites_frame ws d₀).1]
  rfl

end Directory

end Backoffice
