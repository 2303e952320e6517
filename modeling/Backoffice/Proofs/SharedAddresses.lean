import Backoffice.Proofs.LiveUsers

/-! # User names kept apart, addresses shared

The fixture store refuses a user name or an address in use only when it creates a user; an
update replaces the address without looking at the other users'. Account calls change the store
through its own writes only, one write a call, each made under the store's lock, while the
checks around them may read the store at any time before (`Directory.createUser_writes` and its
siblings). So however concurrent calls interleave, the store goes through a run of its writes,
with any arguments.

* **Runs.** A `StoreWrite` is a create, an update or a delete with its arguments;
  `Fixture.apply` makes one, a refused write leaving the fixture as it was, and `Fixture.trace`
  lists the fixtures a run passes through.
* **`Fixture.takesAddress`** — an update of a kept user to an address another user has.
* **One write.** A write keeps a fixture sound, its users keyed by id with distinct user names
  (`Fixture.Sound.apply`); from distinct addresses it leaves them distinct exactly when it takes
  no other user's address (`emails_apply_nodup_iff`).
* **A run** (`trace_sound`, `trace_distinct_iff`): the user names stay distinct in every fixture
  of the run; user names and addresses stay distinct in all of them exactly when no write of the
  run takes another user's address.

Main statement: `fixtureRuns_keep_names_not_addresses`; `fixture_update_shares_address` is an
update that leaves two users with one address. -/

namespace Backoffice

/-- A call whose answer is kept only for the store after it succeeded exactly when the call did. -/
theorem exceptMap_snd_eq_ok {ε α β : Type} {x : Except ε (α × β)} {b : β} :
    x.map (·.2) = .ok b ↔ ∃ a, x = .ok (a, b) := by
  rw [exceptMap_eq_ok]
  constructor
  · rintro ⟨⟨a, b'⟩, hx, rfl⟩
    exact ⟨a, hx⟩
  · rintro ⟨a, hx⟩
    exact ⟨(a, b), hx, rfl⟩

/-- **A write of the user store**, with the arguments an account call passes it. -/
inductive StoreWrite where
  | create (u : NewUser)
  | update (id : Uuid) (ch : UserChanges)
  | delete (id : Uuid)

namespace Fixture

/-- **A write's answer**: the fixture after it, or the refusal. -/
def write (f : Fixture) : StoreWrite → Except AppError Fixture
  | .create u => (f.create u).map (·.2)
  | .update id ch => (f.update id ch).map (·.2)
  | .delete id => f.delete id

/-- **The fixture after a write**: a refused write leaves it as it was. -/
def apply (f : Fixture) (w : StoreWrite) : Fixture :=
  match f.write w with
  | .ok f' => f'
  | .error _ => f

/-- **An update that takes another user's address**: the user `id` is kept, and another user has
the new address. Creates and deletes take none. -/
def takesAddress (f : Fixture) : StoreWrite → Bool
  | .update id ch => f.users.any (·.profile.id == id) &&
      f.users.any fun c => c.profile.id != id && c.profile.email == ch.email
  | _ => false

/-- **The fixtures a run of writes passes through**, after each of its writes. -/
def trace (f : Fixture) : List StoreWrite → List Fixture
  | [] => []
  | w :: ws => f.apply w :: (f.apply w).trace ws

/-- Whether a write of a run takes another user's address, in the fixture it is made on. -/
def takesAnyAddress (f : Fixture) : List StoreWrite → Bool
  | [] => false
  | w :: ws => f.takesAddress w || (f.apply w).takesAnyAddress ws

variable {f f' : Fixture} {w : StoreWrite}

theorem apply_of_ok (h : f.write w = .ok f') : f.apply w = f' := by
  simp [apply, h]

theorem apply_of_error {e : AppError} (h : f.write w = .error e) : f.apply w = f := by
  simp [apply, h]

/-- A write either succeeded, giving the fixture after it, or left the fixture as it was. -/
theorem write_ok_or_apply_eq (f : Fixture) (w : StoreWrite) :
    f.write w = .ok (f.apply w) ∨ f.apply w = f := by
  cases h : f.write w with
  | ok f' => exact .inl (by rw [apply_of_ok h])
  | error e => exact .inr (apply_of_error h)

/-- A refused update is refused by the fixture's own update. -/
theorem update_eq_error_of_write {id : Uuid} {ch : UserChanges} {e : AppError}
    (h : f.write (.update id ch) = .error e) : f.update id ch = .error e := by
  cases hu : f.update id ch with
  | ok r => simp [write, hu, Except.map] at h
  | error e' => simpa [write, hu, Except.map] using h

/-- **Every write the fixture store takes is one of a run**, whatever the account call that
passes its arguments. -/
theorem writes_fixture {s' : UserStore} (h : (UserStore.fixture f).Writes s') :
    ∃ w, s' = .fixture (f.apply w) := by
  cases h with
  | @create u _ _ hc =>
    obtain ⟨⟨_, f'⟩, hfc, he⟩ := exceptMap_eq_ok.1 hc
    cases he
    have hw : f.write (.create u) = .ok f' := exceptMap_snd_eq_ok.2 ⟨_, hfc⟩
    exact ⟨.create u, by rw [apply_of_ok hw]⟩
  | @update id ch _ _ hu =>
    obtain ⟨⟨_, f'⟩, hfu, he⟩ := exceptMap_eq_ok.1 hu
    cases he
    have hw : f.write (.update id ch) = .ok f' := exceptMap_snd_eq_ok.2 ⟨_, hfu⟩
    exact ⟨.update id ch, by rw [apply_of_ok hw]⟩
  | @delete id _ hd =>
    obtain ⟨f', hfd, he⟩ := exceptMap_eq_ok.1 hd
    cases he
    have hw : f.write (.delete id) = .ok f' := hfd
    exact ⟨.delete id, by rw [apply_of_ok hw]⟩

/-! ## One write -/

/-- **A write keeps a fixture sound** and draws at most one id, while the counter stays below
2^62. -/
theorem Sound.write (hs : f.Sound) (hn : f.nextId < Nat.pow 2 62) (h : f.write w = .ok f') :
    f'.Sound ∧ f'.nextId ≤ f.nextId + 1 := by
  cases w with
  | create u =>
    obtain ⟨p, hc⟩ := exceptMap_snd_eq_ok.1 h
    -- the new user has the next draw for its id and a user name no user has
    obtain ⟨hfree, rfl, rfl⟩ := create_eq_ok_iff.mp hc
    exact ⟨hs.append hn rfl fun x hx => (hfree x hx).1, le_refl _⟩
  | update id ch =>
    obtain ⟨p, hu⟩ := exceptMap_snd_eq_ok.1 h
    -- the user `id` is replaced by one with its id and user name
    obtain ⟨l₁, c, l₂, hL, -, -, rfl, rfl⟩ := update_in_place hs.keyed.ids_nodup hu
    exact ⟨hs.replace hL _ rfl rfl, Nat.le_succ _⟩
  | delete id =>
    obtain ⟨l₁, c, l₂, hL, -, -, rfl⟩ := delete_in_place hs.keyed.ids_nodup h
    exact ⟨hs.remove hL, Nat.le_succ _⟩

theorem Sound.apply (hs : f.Sound) (hn : f.nextId < Nat.pow 2 62) (w : StoreWrite) :
    (f.apply w).Sound ∧ (f.apply w).nextId ≤ f.nextId + 1 := by
  rcases f.write_ok_or_apply_eq w with h | h
  · exact hs.write hn h
  · rw [h]
    exact ⟨hs, Nat.le_succ _⟩

/-- An update of a kept user takes another user's address exactly when another user has the new
address. -/
theorem takesAddress_update_eq_false_iff {id : Uuid} {ch : UserChanges}
    (hmem : ∃ c ∈ f.users, c.profile.id = id) :
    f.takesAddress (.update id ch) = false ↔
      ∀ c ∈ f.users, c.profile.id ≠ id → c.profile.email ≠ ch.email := by
  obtain ⟨c, hc, hcid⟩ := hmem
  have hkept : f.users.any (·.profile.id == id) = true := List.any_eq_true.mpr ⟨c, hc, by simp [hcid]⟩
  simp [takesAddress, hkept]

/-- An update of no kept user takes no address. -/
theorem takesAddress_update_of_forall_ne {id : Uuid} {ch : UserChanges}
    (hnone : ∀ c ∈ f.users, c.profile.id ≠ id) : f.takesAddress (.update id ch) = false := by
  have hkept : f.users.any (·.profile.id == id) = false :=
    List.any_eq_false.mpr fun c hc => by simpa using hnone c hc
  simp [takesAddress, hkept]

/-- **From distinct addresses, a write leaves them distinct exactly when it takes no other user's
address.** A create refuses an address in use and a delete only takes users away; an update
gives its user the new address whatever the others have. -/
theorem emails_apply_nodup_iff (hs : f.Sound) (he : (f.users.map (·.profile.email)).Nodup)
    (w : StoreWrite) :
    ((f.apply w).users.map (·.profile.email)).Nodup ↔ f.takesAddress w = false := by
  have hd : f.Distinct := ⟨hs.usernames, he⟩
  cases w with
  | create u =>
    refine iff_of_true ?_ rfl
    rcases f.write_ok_or_apply_eq (.create u) with h | h
    · obtain ⟨p, hc⟩ := exceptMap_snd_eq_ok.1 h
      exact (hd.create hc).emails
    · rwa [h]
  | update id ch =>
    cases h : f.write (.update id ch) with
    | ok f' =>
      obtain ⟨p, hu⟩ := exceptMap_snd_eq_ok.1 h
      obtain ⟨c, hc, hcid, -⟩ := update_eq_ok hu
      rw [apply_of_ok h, takesAddress_update_eq_false_iff ⟨c, hc, hcid⟩, emails_update hu]
      exact nodup_replaceEmail_iff hs.keyed.ids_nodup he ⟨c, hc, hcid⟩ ch.email
    | error e =>
      -- a refused update finds no user `id`
      have hnone := (Fixture.update_eq_error_iff.mp (update_eq_error_of_write h)).2
      rw [apply_of_error h, takesAddress_update_of_forall_ne hnone]
      exact iff_of_true he rfl
  | delete id =>
    refine iff_of_true ?_ rfl
    rcases f.write_ok_or_apply_eq (.delete id) with h | h
    · exact (hd.delete h).emails
    · rwa [h]

/-! ## A run -/

/-- **Every fixture of a run is sound**: its users keyed by id, with distinct user names. -/
theorem trace_sound {ws : List StoreWrite} (hs : f.Sound) (hn : f.nextId + ws.length ≤ Nat.pow 2 62) :
    ∀ g ∈ f.trace ws, g.Sound := by
  -- induction on the run; the counter bound carries over to the rest of it
  induction ws generalizing f with
  | nil => simp [trace]
  | cons w ws ih =>
    rw [List.length_cons] at hn
    obtain ⟨hs', hn'⟩ := hs.apply (by omega) w
    intro g hg
    rcases List.mem_cons.mp hg with rfl | hg
    · exact hs'
    · exact ih hs' (by omega) g hg

/-- **Names and addresses stay distinct along a run exactly while no write takes another user's
address.** -/
theorem trace_distinct_iff {ws : List StoreWrite} (hs : f.Sound)
    (he : (f.users.map (·.profile.email)).Nodup) (hn : f.nextId + ws.length ≤ Nat.pow 2 62) :
    (∀ g ∈ f.trace ws, g.Distinct) ↔ f.takesAnyAddress ws = false := by
  induction ws generalizing f with
  | nil => simp [trace, takesAnyAddress]
  | cons w ws ih =>
    rw [List.length_cons] at hn
    obtain ⟨hs', hn'⟩ := hs.apply (by omega) w
    have hstep := emails_apply_nodup_iff hs he w
    simp only [trace, takesAnyAddress, List.forall_mem_cons, Bool.or_eq_false_iff]
    constructor
    · rintro ⟨hd, hrest⟩
      exact ⟨hstep.mp hd.emails, (ih hs' hd.emails (by omega)).mp hrest⟩
    · rintro ⟨hw, hrest⟩
      have hemails := hstep.mpr hw
      exact ⟨⟨hs'.usernames, hemails⟩, (ih hs' hemails (by omega)).mpr hrest⟩

end Fixture

/-! ## User names and addresses under any interleaving -/

/-- **User names stay distinct in the fixture store, addresses only while no update takes one.**
Each account call that succeeds writes the store once and otherwise only reads it, and every
write the fixture takes is a write of a run; so however the calls interleave, the store goes
through a run of writes with any arguments. From a fixture whose users are keyed by id and have
distinct user names and addresses, the user names stay distinct in every fixture of every run;
user names and addresses stay distinct in all of them exactly when no update of the run gives
its user an address another user has. -/
theorem fixtureRuns_keep_names_not_addresses (f : Fixture) (ws : List StoreWrite)
    (hk : f.Keyed) (hd : f.Distinct) (hn : f.nextId + ws.length ≤ Nat.pow 2 62) :
    (∀ (d d' : Directory) (actor : String) (input : CreateInput) (p : UserProfile),
      d.createUser actor input = .ok (p, d') → d.store.Writes d'.store) ∧
    (∀ (d d' : Directory) (actor : String) (id : Uuid) (input : UpdateInput) (p : UserProfile),
      d.updateUser actor id input = .ok (p, d') → d.store.Writes d'.store) ∧
    (∀ (d d' : Directory) (id : Uuid), d.deleteUser id = .ok d' → d.store.Writes d'.store) ∧
    (∀ (g : Fixture) (s' : UserStore), (UserStore.fixture g).Writes s' →
      ∃ w, s' = .fixture (g.apply w)) ∧
    (∀ g ∈ f.trace ws, (g.users.map (·.profile.username)).Nodup) ∧
    ((∀ g ∈ f.trace ws, g.Distinct) ↔ f.takesAnyAddress ws = false) := by
  have hs : f.Sound := ⟨hk, hd.usernames⟩
  exact ⟨fun _ _ _ _ _ h => Directory.createUser_writes h,
    fun _ _ _ _ _ _ h => Directory.updateUser_writes h,
    fun _ _ _ h => Directory.deleteUser_writes h,
    fun _ _ h => Fixture.writes_fixture h,
    fun g hg => (Fixture.trace_sound hs hn g hg).usernames,
    Fixture.trace_distinct_iff hs hd.emails hn⟩

/-- Alice and Bob added as sample users, then Bob's address changed to Alice's: the run takes
an address, so the users do not stay distinct. -/
theorem fixtureRuns_keep_names_not_addresses_bob_takes_alice :
    let f := ((Fixture.empty.add (Fixture.sampleUser "alice" "x")).2.add
      (Fixture.sampleUser "bob" "x")).2
    let ws := [StoreWrite.update (Fixture.drawnId 2)
      ⟨"alice@example.com", "Test", none, "User", none, "admin"⟩]
    f.Keyed ∧ f.Distinct ∧ f.nextId + ws.length ≤ Nat.pow 2 62 ∧ f.takesAnyAddress ws = true ∧
      (∀ g ∈ f.trace ws, (g.users.map (·.profile.username)).Nodup) ∧
      ((∀ g ∈ f.trace ws, g.Distinct) ↔ f.takesAnyAddress ws = false) := by
  intro f ws
  have hk : f.Keyed :=
    (Fixture.keyed_empty.add (by decide) _).add (by decide) _
  have hd : f.Distinct := by decide
  have hn : f.nextId + ws.length ≤ Nat.pow 2 62 := by decide
  exact ⟨hk, hd, hn, by decide, (fixtureRuns_keep_names_not_addresses f ws hk hd hn).2.2.2.2⟩

/-- **The fixture lets two users share an address**: with Alice and Bob added as sample users,
giving Bob Alice's address succeeds and leaves both with it. -/
theorem fixture_update_shares_address :
    let f := ((Fixture.empty.add (Fixture.sampleUser "alice" "x")).2.add
      (Fixture.sampleUser "bob" "x")).2
    f.Distinct ∧ (f.users.map (·.profile.id)).Nodup ∧
    ∃ p f', f.update (Uuid.version4 (2 * 0x9E3779B97F4A7C15))
        ⟨"alice@example.com", "Test", none, "User", none, "admin"⟩ = .ok (p, f') ∧
      f'.users.map (·.profile.email) = ["alice@example.com", "alice@example.com"] ∧
      ¬ f'.Distinct := by
  refine ⟨by decide, by decide, _, _, rfl, by decide, by decide⟩

end Backoffice
