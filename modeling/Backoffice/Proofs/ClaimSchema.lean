import Mathlib.Data.String.Basic
import Backoffice.Proofs.ClaimSet

/-! # The schema of a claim set

What reading claims from a claim set (`Claims.ofClaimSet`) accepts, said as a schema: six
members, each with a **`Claims.Shape`**, read in the order of **`Claims.schema`**.

* **`JsonNumber.IsInt64`** — a number that is a signed 64-bit integer as reading keeps it: an
  unsigned number up to the largest signed value, or a negative one. No float is one.
* **`ofClaimSet_eq_ok_iff`** — claims are read exactly when every member fits its shape, and then
  they are the members' values.
* **`ofClaimSet_eq_error_iff`** — otherwise the refusal names the first member, in schema order,
  that does not fit.
* **`toClaimSet_of_ofClaimSet`** — for a claim set in the form reading gives (keys distinct and
  in order, negative numbers below zero), writing the claims read from it gives the set cut to
  the schema (**`Claims.schemaPart`**), an audience array of one string replaced by the string.
* **`claimSet_schema`** — all of the above, and that claims with an identity and times within
  signed 64 bits are read back from their claim set. -/

namespace Backoffice

/-! ## Numbers that are 64-bit integers -/

namespace JsonNumber

/-- **A number that is the signed 64-bit integer `i`**: an unsigned number no larger than the
largest signed value, or a negative number (which reading keeps down to `-2^63`). -/
def IsInt64 (n : JsonNumber) (i : Int) : Prop :=
  (∃ k : Nat, n = .posInt k ∧ k ≤ int64Max ∧ i = k) ∨ n = .negInt i

theorem toInt64?_eq_some_iff {n : JsonNumber} {i : Int} : n.toInt64? = some i ↔ n.IsInt64 i := by
  cases n with
  | posInt k =>
    by_cases hk : k ≤ int64Max
    · simp [toInt64?, IsInt64, hk, eq_comm]
    · simp [toInt64?, IsInt64, hk]
  | negInt j => simp [toInt64?, IsInt64]
  | float b => simp [toInt64?, IsInt64]

/-- A negative number that reading gave is below zero, so an integer it holds is written back as
the same number. -/
theorem IsInt64.eq_ofInt {n : JsonNumber} {i : Int} (h : n.IsInt64 i)
    (hneg : ∀ j, n = .negInt j → j < 0) : n = ofInt i := by
  rcases h with ⟨k, rfl, -, rfl⟩ | rfl
  · simp [ofInt]
  · have hi := hneg i rfl
    simp [ofInt, hi]

end JsonNumber

/-! ## Member lists -/

namespace JsonValue

/-- **An array of one value stands for that value**; every other value for itself. -/
def unwrapSingleton : JsonValue → JsonValue
  | .array [v] => v
  | v => v

theorem lookup_eq_none_of_lt {k : String} {set : List (String × JsonValue)}
    (h : ∀ p ∈ set, k < p.1) : lookup k set = none := by
  induction set with
  | nil => rfl
  | cons p rest ih =>
    have hne : k ≠ p.1 := ne_of_lt (h p List.mem_cons_self)
    rw [lookup, if_neg hne]
    exact ih fun q hq => h q (List.mem_cons_of_mem _ hq)

/-- **A member list with keys in increasing order is determined by its lookups.** -/
theorem eq_of_lookup_eq : ∀ {l₁ l₂ : List (String × JsonValue)},
    l₁.Pairwise (·.1 < ·.1) → l₂.Pairwise (·.1 < ·.1) → (∀ k, lookup k l₁ = lookup k l₂) → l₁ = l₂
  | [], [], _, _, _ => rfl
  | [], (k, v) :: _, _, _, h => by simpa [lookup] using h k
  | (k, v) :: _, [], _, _, h => by simpa [lookup] using h k
  | (k₁, v₁) :: r₁, (k₂, v₂) :: r₂, h₁, h₂, h => by
    rw [List.pairwise_cons] at h₁ h₂
    -- the smaller of the two first keys is in one list and in neither tail
    rcases lt_trichotomy k₁ k₂ with hlt | rfl | hgt
    · have hk := h k₁
      rw [lookup, if_pos rfl, lookup, if_neg (ne_of_lt hlt),
        lookup_eq_none_of_lt fun p hp => lt_trans hlt (h₂.1 p hp)] at hk
      cases hk
    · have hv : v₁ = v₂ := by simpa [lookup] using h k₁
      have hr : ∀ k, lookup k r₁ = lookup k r₂ := by
        intro k
        by_cases hk : k = k₁
        · subst hk
          rw [lookup_eq_none_of_lt h₁.1, lookup_eq_none_of_lt h₂.1]
        · simpa [lookup, hk] using h k
      rw [hv, eq_of_lookup_eq h₁.2 h₂.2 hr]
    · have hk := h k₂
      rw [lookup, if_neg (ne_of_lt hgt), lookup, if_pos rfl,
        lookup_eq_none_of_lt fun p hp => lt_trans hgt (h₁.1 p hp)] at hk
      cases hk

/-- Keeping the members whose keys pass a test keeps the lookup of a key that passes it. -/
theorem lookup_filter (q : String → Bool) (k : String) (set : List (String × JsonValue)) :
    lookup k (set.filter fun p => q p.1) = if q k then lookup k set else none := by
  induction set with
  | nil => simp [lookup]
  | cons p rest ih =>
    obtain ⟨k', v⟩ := p
    by_cases hk : k = k'
    · subst hk
      by_cases hq : q k <;> simp [lookup, hq, ih]
    · by_cases hq : q k' <;> simp [lookup, hk, hq, ih]

/-- Changing each member's value by a function of its key changes the lookup by it. -/
theorem lookup_map_value (g : String → JsonValue → JsonValue) (k : String)
    (set : List (String × JsonValue)) :
    lookup k (set.map fun p => (p.1, g p.1 p.2)) = (lookup k set).map (g k) := by
  induction set with
  | nil => rfl
  | cons p rest ih =>
    obtain ⟨k', v⟩ := p
    by_cases hk : k = k'
    · subst hk
      simp [lookup]
    · simp [lookup, hk, ih]

end JsonValue

namespace Claims

/-! ## The schema -/

/-- **What a claim must hold.** -/
inductive Shape where
  /-- a string that is not empty -/
  | identity
  /-- a string -/
  | text
  /-- a string, or an array holding exactly one string -/
  | audience
  /-- a whole number within signed 64 bits -/
  | time
  deriving DecidableEq, Repr

/-- **Whether a member fits its shape**; a missing member fits none. A time is an unsigned
number up to the largest signed 64-bit value or a negative number, never a float. -/
def Shape.fits : Shape → Option JsonValue → Bool
  | .identity, some (.string s) => !s.isEmpty
  | .text, some (.string _) => true
  | .audience, some (.string _) => true
  | .audience, some (.array [.string _]) => true
  | .time, some (.number (.posInt k)) => decide (k ≤ JsonNumber.int64Max)
  | .time, some (.number (.negInt _)) => true
  | _, _ => false

/-- **The schema of a claim set**: the claims in the order they are read, with their shapes. -/
def schema : List (String × Shape) :=
  [("identity", .identity), ("iss", .text), ("sub", .text), ("aud", .audience), ("iat", .time),
    ("exp", .time)]

/-- **The first member of a claim set that does not fit the schema**, in schema order. -/
def firstMisfit (set : List (String × JsonValue)) : Option (String × Shape) :=
  schema.find? fun q => !q.2.fits (JsonValue.lookup q.1 set)

/-- **A claim set cut to the schema**: the members the schema names, in their order, an audience
array of one value replaced by the value. -/
def schemaPart (set : List (String × JsonValue)) : List (String × JsonValue) :=
  (set.filter fun p => (schema.map Prod.fst).contains p.1).map fun p =>
    (p.1, if p.1 = "aud" then p.2.unwrapSingleton else p.2)

theorem fits_text {v : Option JsonValue} :
    Shape.text.fits v = true ↔ ∃ s, v = some (.string s) := by
  rcases v with _ | (_ | b | n | s | items | fs) <;> simp [Shape.fits]

theorem fits_identity {v : Option JsonValue} :
    Shape.identity.fits v = true ↔ ∃ s, v = some (.string s) ∧ s ≠ "" := by
  rcases v with _ | (_ | b | n | s | items | fs) <;> simp [Shape.fits]

theorem fits_audience {v : Option JsonValue} : Shape.audience.fits v = true ↔
    ∃ s, v = some (.string s) ∨ v = some (.array [.string s]) := by
  rcases v with _ | (_ | b | n | s | items | fs) <;> simp [Shape.fits]
  rcases items with _ | ⟨x, _ | ⟨y, rest⟩⟩ <;> simp
  cases x <;> simp

theorem fits_time {v : Option JsonValue} : Shape.time.fits v = true ↔
    ∃ n i, v = some (.number n) ∧ n.IsInt64 i := by
  rcases v with _ | (_ | b | n | s | items | fs) <;> simp [Shape.fits]
  rcases n with k | j | bits <;> simp [JsonNumber.IsInt64]

/-! ## Each claim read -/

/-- A step that refuses only by naming `name` refuses exactly when it reads nothing. -/
theorem eq_error_iff_of_ok_iff {α : Type} {step : Except TokenError α} {fits : Bool}
    {name : String} (hok : (∃ a, step = .ok a) ↔ fits = true)
    (herr : ∀ e, step = .error e → e = .claimsMissing name) (e : TokenError) :
    step = .error e ↔ fits = false ∧ e = .claimsMissing name := by
  cases step with
  | error e' =>
    have hfits : fits = false := by simpa using hok.not.mp (by simp)
    rw [herr e' rfl]
    simp [hfits, eq_comm]
  | ok a =>
    simp [hok.mp ⟨a, rfl⟩]

variable {set : List (String × JsonValue)}

theorem stringClaim_eq_ok_iff {name s : String} :
    stringClaim set name = .ok s ↔ JsonValue.lookup name set = some (.string s) := by
  unfold stringClaim
  split <;> simp_all

theorem stringClaim_eq_error_iff {name : String} (e : TokenError) :
    stringClaim set name = .error e ↔
      Shape.text.fits (JsonValue.lookup name set) = false ∧ e = .claimsMissing name :=
  eq_error_iff_of_ok_iff (by simp [stringClaim_eq_ok_iff, fits_text]) (fun _ h => stringClaim_error h) e

theorem audienceClaim_eq_ok_iff {s : String} :
    audienceClaim set = .ok s ↔ JsonValue.lookup "aud" set = some (.string s) ∨
      JsonValue.lookup "aud" set = some (.array [.string s]) := by
  unfold audienceClaim
  split <;> simp_all

theorem audienceClaim_eq_error_iff (e : TokenError) :
    audienceClaim set = .error e ↔
      Shape.audience.fits (JsonValue.lookup "aud" set) = false ∧ e = .claimsMissing "aud" :=
  eq_error_iff_of_ok_iff (by simp [audienceClaim_eq_ok_iff, fits_audience])
    (fun _ h => audienceClaim_error h) e

theorem timeClaim_eq_ok_iff {name : String} {i : Int} :
    timeClaim set name = .ok i ↔
      ∃ n, JsonValue.lookup name set = some (.number n) ∧ n.IsInt64 i := by
  unfold timeClaim
  split
  · rename_i n hn
    split <;> rename_i h <;> simp [hn, ← JsonNumber.toInt64?_eq_some_iff, h]
  · rename_i hnum
    simp only [reduceCtorEq, false_iff, not_exists, not_and]
    intro n hn
    exact absurd hn (hnum n)

theorem timeClaim_eq_error_iff {name : String} (e : TokenError) :
    timeClaim set name = .error e ↔
      Shape.time.fits (JsonValue.lookup name set) = false ∧ e = .claimsMissing name :=
  eq_error_iff_of_ok_iff
    (by simp only [timeClaim_eq_ok_iff, fits_time]; exact ⟨fun ⟨i, n, h⟩ => ⟨n, i, h⟩,
      fun ⟨n, i, h⟩ => ⟨i, n, h⟩⟩)
    (fun _ h => timeClaim_error h) e

theorem bind_eq_ok {α β : Type} {x : Except TokenError α} {f : α → Except TokenError β} {b : β} :
    x >>= f = .ok b ↔ ∃ a, x = .ok a ∧ f a = .ok b := by
  cases x <;> simp [bind, Except.bind]

/-- The identity is read when it is a string, and kept when that string is not empty. -/
theorem fits_identity_iff {s : String} (h : stringClaim set "identity" = .ok s) :
    Shape.identity.fits (JsonValue.lookup "identity" set) = !s.isEmpty := by
  rw [stringClaim_eq_ok_iff.mp h]
  rfl

theorem fits_identity_of_error {e : TokenError} (h : stringClaim set "identity" = .error e) :
    Shape.identity.fits (JsonValue.lookup "identity" set) = false := by
  have htext := ((stringClaim_eq_error_iff e).mp h).1
  rw [Bool.eq_false_iff] at htext ⊢
  intro hid
  obtain ⟨s, hs, -⟩ := fits_identity.mp hid
  exact htext (fits_text.mpr ⟨s, hs⟩)

/-! ## Claims read, and the first claim refused -/

/-- **Claims are read exactly when every member fits its shape**, and they are the members'
values. -/
theorem ofClaimSet_eq_ok_iff {c : Claims} : ofClaimSet set = .ok c ↔
    JsonValue.lookup "identity" set = some (.string c.identity) ∧ c.identity ≠ "" ∧
    JsonValue.lookup "iss" set = some (.string c.issuer) ∧
    JsonValue.lookup "sub" set = some (.string c.subject) ∧
    (JsonValue.lookup "aud" set = some (.string c.audience) ∨
      JsonValue.lookup "aud" set = some (.array [.string c.audience])) ∧
    (∃ n, JsonValue.lookup "iat" set = some (.number n) ∧ n.IsInt64 c.issuedAt) ∧
    (∃ n, JsonValue.lookup "exp" set = some (.number n) ∧ n.IsInt64 c.expiresAt) := by
  constructor
  · intro h
    simp only [ofClaimSet, bind_eq_ok] at h
    obtain ⟨identity, hid, h⟩ := h
    -- an empty identity is refused, so the identity read is not empty
    split at h
    · simp [throw, throwThe, MonadExceptOf.throw, bind, Except.bind] at h
    rename_i hempty
    simp only [bind_eq_ok] at h
    obtain ⟨issuer, hiss, subject, hsub, audience, haud, iat, hiat, exp, hexp, hc⟩ := h
    cases hc
    exact ⟨stringClaim_eq_ok_iff.mp hid, by simpa [String.isEmpty_iff] using hempty,
      stringClaim_eq_ok_iff.mp hiss, stringClaim_eq_ok_iff.mp hsub, audienceClaim_eq_ok_iff.mp haud,
      timeClaim_eq_ok_iff.mp hiat, timeClaim_eq_ok_iff.mp hexp⟩
  · rintro ⟨hid, hne, hiss, hsub, haud, hiat, hexp⟩
    have hempty : c.identity.isEmpty = false := by simpa [String.isEmpty_iff] using hne
    simp [ofClaimSet, stringClaim_eq_ok_iff.mpr hid, hempty, stringClaim_eq_ok_iff.mpr hiss,
      stringClaim_eq_ok_iff.mpr hsub, audienceClaim_eq_ok_iff.mpr haud,
      timeClaim_eq_ok_iff.mpr hiat, timeClaim_eq_ok_iff.mpr hexp, bind, Except.bind, pure,
      Except.pure]

/-- Claims that are read leave no member unfit. -/
theorem firstMisfit_of_ok {c : Claims} (h : ofClaimSet set = .ok c) : firstMisfit set = none := by
  obtain ⟨hid, hne, hiss, hsub, haud, ⟨n₁, hiat, hi⟩, ⟨n₂, hexp, he⟩⟩ := ofClaimSet_eq_ok_iff.mp h
  have h₁ : Shape.identity.fits (JsonValue.lookup "identity" set) = true :=
    fits_identity.mpr ⟨_, hid, hne⟩
  have h₂ : Shape.text.fits (JsonValue.lookup "iss" set) = true := fits_text.mpr ⟨_, hiss⟩
  have h₃ : Shape.text.fits (JsonValue.lookup "sub" set) = true := fits_text.mpr ⟨_, hsub⟩
  have h₄ : Shape.audience.fits (JsonValue.lookup "aud" set) = true := fits_audience.mpr ⟨_, haud⟩
  have h₅ : Shape.time.fits (JsonValue.lookup "iat" set) = true := fits_time.mpr ⟨n₁, _, hiat, hi⟩
  have h₆ : Shape.time.fits (JsonValue.lookup "exp" set) = true := fits_time.mpr ⟨n₂, _, hexp, he⟩
  simp [firstMisfit, schema, h₁, h₂, h₃, h₄, h₅, h₆]

/-- A refusal names the first member that does not fit. -/
theorem firstMisfit_of_error {e : TokenError} (h : ofClaimSet set = .error e) :
    ∃ q, firstMisfit set = some q ∧ e = .claimsMissing q.1 := by
  unfold ofClaimSet at h
  rcases error_of_bind h with h | ⟨identity, hid, h⟩
  · refine ⟨("identity", .identity), ?_, ((stringClaim_eq_error_iff e).mp h).2⟩
    simp [firstMisfit, schema, fits_identity_of_error h]
  have h₁ := fits_identity_iff hid
  -- an empty identity is refused before the other claims are read
  simp only at h
  split at h
  · rename_i hempty
    rcases error_of_bind h with h | ⟨_, hok, -⟩
    · refine ⟨("identity", .identity), ?_, (Except.error.inj h).symm⟩
      simp [firstMisfit, schema, h₁, hempty]
    · cases hok
  rename_i hempty
  rw [Bool.not_eq_true] at hempty
  rw [hempty] at h₁
  rcases error_of_bind h with h | ⟨issuer, hiss, h⟩
  · refine ⟨("iss", .text), ?_, ((stringClaim_eq_error_iff e).mp h).2⟩
    simp [firstMisfit, schema, h₁, ((stringClaim_eq_error_iff e).mp h).1]
  have h₂ := fits_text.mpr ⟨_, stringClaim_eq_ok_iff.mp hiss⟩
  rcases error_of_bind h with h | ⟨subject, hsub, h⟩
  · refine ⟨("sub", .text), ?_, ((stringClaim_eq_error_iff e).mp h).2⟩
    simp [firstMisfit, schema, h₁, h₂, ((stringClaim_eq_error_iff e).mp h).1]
  have h₃ := fits_text.mpr ⟨_, stringClaim_eq_ok_iff.mp hsub⟩
  rcases error_of_bind h with h | ⟨audience, haud, h⟩
  · refine ⟨("aud", .audience), ?_, ((audienceClaim_eq_error_iff e).mp h).2⟩
    simp [firstMisfit, schema, h₁, h₂, h₃, ((audienceClaim_eq_error_iff e).mp h).1]
  have h₄ := fits_audience.mpr ⟨_, audienceClaim_eq_ok_iff.mp haud⟩
  rcases error_of_bind h with h | ⟨iat, hiat, h⟩
  · refine ⟨("iat", .time), ?_, ((timeClaim_eq_error_iff e).mp h).2⟩
    simp [firstMisfit, schema, h₁, h₂, h₃, h₄, ((timeClaim_eq_error_iff e).mp h).1]
  obtain ⟨n, hn, hi⟩ := timeClaim_eq_ok_iff.mp hiat
  have h₅ := fits_time.mpr ⟨n, _, hn, hi⟩
  rcases error_of_bind h with h | ⟨exp, -, h⟩
  · refine ⟨("exp", .time), ?_, ((timeClaim_eq_error_iff e).mp h).2⟩
    simp [firstMisfit, schema, h₁, h₂, h₃, h₄, h₅, ((timeClaim_eq_error_iff e).mp h).1]
  · cases h

/-- **A refusal names the first member, in schema order, that does not fit its shape.** -/
theorem ofClaimSet_eq_error_iff {e : TokenError} :
    ofClaimSet set = .error e ↔ ∃ q, firstMisfit set = some q ∧ e = .claimsMissing q.1 := by
  refine ⟨firstMisfit_of_error, ?_⟩
  rintro ⟨q, hq, rfl⟩
  -- reading either refuses, and then names the first misfit, or succeeds, and then there is none
  cases h : ofClaimSet set with
  | error e' =>
    obtain ⟨q', hq', rfl⟩ := firstMisfit_of_error h
    rw [hq] at hq'
    cases hq'
    rfl
  | ok c =>
    rw [firstMisfit_of_ok h] at hq
    cases hq

/-- **Reading claims refuses only by naming a missing claim**: the first member that does not
fit its shape. -/
theorem ofClaimSet_error {e : TokenError} (h : ofClaimSet set = .error e) :
    ∃ name, e = .claimsMissing name := by
  obtain ⟨q, -, rfl⟩ := ofClaimSet_eq_error_iff.mp h
  exact ⟨q.1, rfl⟩

/-! ## Written back -/

theorem mem_of_lookup_eq_some {k : String} {v : JsonValue} (h : JsonValue.lookup k set = some v) :
    (k, v) ∈ set := by
  induction set with
  | nil => cases h
  | cons p rest ih =>
    obtain ⟨k', v'⟩ := p
    unfold JsonValue.lookup at h
    split at h
    · rename_i hk
      cases h
      rw [hk]
      exact List.mem_cons_self
    · exact List.mem_cons_of_mem _ (ih h)

/-- The members of a claim set cut to the schema are those the schema names, the audience
unwrapped. -/
theorem lookup_schemaPart (k : String) : JsonValue.lookup k (schemaPart set) =
    if (schema.map Prod.fst).contains k then
      (JsonValue.lookup k set).map fun v => if k = "aud" then v.unwrapSingleton else v
    else none := by
  unfold schemaPart
  rw [JsonValue.lookup_map_value (fun k v => if k = "aud" then v.unwrapSingleton else v),
    JsonValue.lookup_filter (fun k => (schema.map Prod.fst).contains k)]
  split_ifs <;> rfl

theorem schemaPart_sorted (h : set.Pairwise (·.1 < ·.1)) :
    (schemaPart set).Pairwise (·.1 < ·.1) := by
  unfold schemaPart
  rw [List.pairwise_map]
  exact h.filter _

theorem toClaimSet_sorted (c : Claims) : c.toClaimSet.Pairwise (·.1 < ·.1) := by
  have hnames : c.toClaimSet.map Prod.fst = ["aud", "exp", "iat", "identity", "iss", "sub"] := rfl
  refine (List.pairwise_map (f := Prod.fst) (R := fun x y : String => x < y)).mp ?_
  rw [hnames]
  decide

theorem lookup_toClaimSet_of_not_mem (c : Claims) {k : String}
    (hk : (schema.map Prod.fst).contains k = false) : JsonValue.lookup k c.toClaimSet = none := by
  simp only [schema, List.map_cons, List.map_nil, List.contains_cons, List.contains_nil,
    Bool.or_false, Bool.or_eq_false_iff, beq_eq_false_iff_ne, ne_eq] at hk
  obtain ⟨h₁, h₂, h₃, h₄, h₅, h₆⟩ := hk
  simp [toClaimSet, JsonValue.lookup, h₁, h₂, h₃, h₄, h₅, h₆]

/-- **Writing the claims read from a claim set gives the set cut to the schema**, an audience
array of one string replaced by the string, when the set is in the form reading gives: keys in
increasing order, negative numbers below zero. -/
theorem toClaimSet_of_ofClaimSet {c : Claims} (hsorted : set.Pairwise (·.1 < ·.1))
    (hneg : ∀ p ∈ set, ∀ i, p.2 = .number (.negInt i) → i < 0) (h : ofClaimSet set = .ok c) :
    c.toClaimSet = schemaPart set := by
  obtain ⟨hid, -, hiss, hsub, haud, ⟨n₁, hiat, hi⟩, ⟨n₂, hexp, he⟩⟩ := ofClaimSet_eq_ok_iff.mp h
  -- the times are written as the numbers they were read from
  have hn₁ : n₁ = JsonNumber.ofInt c.issuedAt :=
    hi.eq_ofInt fun j hj => hneg _ (mem_of_lookup_eq_some hiat) j (by rw [hj])
  have hn₂ : n₂ = JsonNumber.ofInt c.expiresAt :=
    he.eq_ofInt fun j hj => hneg _ (mem_of_lookup_eq_some hexp) j (by rw [hj])
  refine JsonValue.eq_of_lookup_eq (toClaimSet_sorted c) (schemaPart_sorted hsorted) fun k => ?_
  rw [lookup_schemaPart]
  by_cases hk : (schema.map Prod.fst).contains k = true
  · rw [if_pos hk]
    simp only [schema, List.map_cons, List.map_nil, List.contains_cons, List.contains_nil,
      Bool.or_false, Bool.or_eq_true, beq_iff_eq] at hk
    rcases hk with rfl | rfl | rfl | rfl | rfl | rfl
    · simp [hid]
    · simp [hiss]
    · simp [hsub]
    · rcases haud with haud | haud <;> simp [haud, JsonValue.unwrapSingleton]
    · simp [hiat, hn₁]
    · simp [hexp, hn₂]
  · rw [Bool.not_eq_true] at hk
    rw [if_neg (Bool.eq_false_iff.mp hk), lookup_toClaimSet_of_not_mem c hk]

/-! ## The schema as a whole -/

/-- **Claims are read from a claim set exactly as the schema says.** They are read when the
identity is a string that is not empty, the issuer and subject are strings, the audience is a
string or an array of exactly one string, and the two times are numbers that are signed 64-bit
integers (an unsigned number up to the largest signed value, or a negative number: never a
float, nor an unsigned number above that value); the claims are then the members' values. Any
other claim set is refused by naming the first member, in the order identity, issuer, subject,
audience, issue time, expiry, that does not fit. Writing claims read from a claim set in the form
reading gives yields the set cut to those six members, an audience array replaced by its string;
and claims with an identity and times within signed 64 bits are read back from what writing them
gives. -/
theorem claimSet_schema (set : List (String × JsonValue)) :
    (∀ c : Claims, ofClaimSet set = .ok c ↔
      JsonValue.lookup "identity" set = some (.string c.identity) ∧ c.identity ≠ "" ∧
      JsonValue.lookup "iss" set = some (.string c.issuer) ∧
      JsonValue.lookup "sub" set = some (.string c.subject) ∧
      (JsonValue.lookup "aud" set = some (.string c.audience) ∨
        JsonValue.lookup "aud" set = some (.array [.string c.audience])) ∧
      (∃ n, JsonValue.lookup "iat" set = some (.number n) ∧ n.IsInt64 c.issuedAt) ∧
      (∃ n, JsonValue.lookup "exp" set = some (.number n) ∧ n.IsInt64 c.expiresAt)) ∧
    (∀ e, ofClaimSet set = .error e ↔ ∃ q, firstMisfit set = some q ∧ e = .claimsMissing q.1) ∧
    (set.Pairwise (·.1 < ·.1) → (∀ p ∈ set, ∀ i, p.2 = .number (.negInt i) → i < 0) →
      ∀ c, ofClaimSet set = .ok c → c.toClaimSet = schemaPart set) ∧
    (∀ c : Claims, c.identity ≠ "" → InInt64 c.issuedAt → InInt64 c.expiresAt →
      ofClaimSet c.toClaimSet = .ok c) := by
  refine ⟨fun c => ofClaimSet_eq_ok_iff, fun e => ofClaimSet_eq_error_iff,
    fun hsorted hneg c h => toClaimSet_of_ofClaimSet hsorted hneg h, ?_⟩
  intro c hid hiat hexp
  rw [ofClaimSet_toClaimSet c hiat.2 hexp.2, if_neg hid]

/-- A claim set with its audience in an array of one string and a member the schema does not
name is read, and the claims read are written back as the set cut to the schema; they are read
back from that in turn. -/
theorem claimSet_schema_array_audience :
    let set : List (String × JsonValue) := [("aud", .array [.string "flexio-admin"]),
      ("data", .null), ("exp", .number (.posInt 1700003600)), ("iat", .number (.posInt 1700000000)),
      ("identity", .string "alice"), ("iss", .string "flexio-backend"), ("sub", .string "alice")]
    let c : Claims := ⟨"alice", "flexio-backend", "alice", "flexio-admin", 1700000000, 1700003600⟩
    set.Pairwise (·.1 < ·.1) ∧ (∀ p ∈ set, ∀ i, p.2 = .number (.negInt i) → i < 0) ∧
      ofClaimSet set = .ok c ∧ c.toClaimSet = schemaPart set ∧
      c.identity ≠ "" ∧ InInt64 c.issuedAt ∧ InInt64 c.expiresAt ∧ ofClaimSet c.toClaimSet = .ok c := by
  intro set c
  have hsorted : set.Pairwise (·.1 < ·.1) := by decide
  have hneg : ∀ p ∈ set, ∀ i, p.2 = .number (.negInt i) → i < 0 := by simp [set]
  have hread : ofClaimSet set = .ok c := rfl
  have hid : c.identity ≠ "" := by decide
  have hiat : InInt64 c.issuedAt := by decide
  have hexp : InInt64 c.expiresAt := by decide
  exact ⟨hsorted, hneg, hread, (claimSet_schema set).2.2.1 hsorted hneg c hread, hid, hiat, hexp,
    (claimSet_schema set).2.2.2 c hid hiat hexp⟩

end Claims

end Backoffice
