import Backoffice.Token.Claims
import Backoffice.Proofs.JsonRoundTrip

/-! # Claim sets read back

Claims are written as a claim set (`Claims.toClaimSet`) and read back from one
(`Claims.ofClaimSet`). This file says which claim each step of reading refuses with, and that a
claim set written from claims is read back as them.

* **`ofClaimSet_toClaimSet`** — the claims of a claim set written from claims are those claims,
  unless the identity is empty; the two times are read back when they fit signed 64 bits.
* **`parseValue_toClaimSet`** — the JSON text of such a claim set reads back as the claim set:
  its members are strings and whole numbers, in sorted order of their names. -/

namespace Backoffice

/-- **A whole number within signed 64 bits.** -/
def InInt64 (x : Int) : Prop := -(Nat.pow 2 63 : Int) ≤ x ∧ x ≤ JsonNumber.int64Max

instance (x : Int) : Decidable (InInt64 x) := inferInstanceAs (Decidable (_ ∧ _))

namespace Claims

/-! ## Refusals -/

/-- A chain of steps fails at its first step or at a later one. -/
theorem error_of_bind {α β : Type} {x : Except TokenError α} {f : α → Except TokenError β}
    {e : TokenError} (h : (x >>= f) = .error e) :
    x = .error e ∨ ∃ a, x = .ok a ∧ f a = .error e := by
  cases x with
  | error e' =>
    left
    rw [show e' = e from Except.error.inj h]
  | ok a =>
    right
    exact ⟨a, rfl, h⟩

theorem stringClaim_error {set : List (String × JsonValue)} {name : String} {e : TokenError}
    (h : stringClaim set name = .error e) : e = .claimsMissing name := by
  unfold stringClaim at h
  split at h
  · cases h
  · exact (Except.error.inj h).symm

theorem timeClaim_error {set : List (String × JsonValue)} {name : String} {e : TokenError}
    (h : timeClaim set name = .error e) : e = .claimsMissing name := by
  unfold timeClaim at h
  split at h
  · split at h
    · cases h
    · exact (Except.error.inj h).symm
  · exact (Except.error.inj h).symm

theorem audienceClaim_error {set : List (String × JsonValue)} {e : TokenError}
    (h : audienceClaim set = .error e) : e = .claimsMissing "aud" := by
  unfold audienceClaim at h
  split at h
  · cases h
  · cases h
  · exact (Except.error.inj h).symm

/-! ## Written claims read back -/

section Written

variable (c : Claims)

@[simp] theorem lookup_aud : JsonValue.lookup "aud" c.toClaimSet = some (.string c.audience) := by
  simp [toClaimSet, JsonValue.lookup]

@[simp] theorem lookup_exp :
    JsonValue.lookup "exp" c.toClaimSet = some (.number (JsonNumber.ofInt c.expiresAt)) := by
  simp [toClaimSet, JsonValue.lookup]

@[simp] theorem lookup_iat :
    JsonValue.lookup "iat" c.toClaimSet = some (.number (JsonNumber.ofInt c.issuedAt)) := by
  simp [toClaimSet, JsonValue.lookup]

@[simp] theorem lookup_identity :
    JsonValue.lookup "identity" c.toClaimSet = some (.string c.identity) := by
  simp [toClaimSet, JsonValue.lookup]

@[simp] theorem lookup_iss : JsonValue.lookup "iss" c.toClaimSet = some (.string c.issuer) := by
  simp [toClaimSet, JsonValue.lookup]

@[simp] theorem lookup_sub : JsonValue.lookup "sub" c.toClaimSet = some (.string c.subject) := by
  simp [toClaimSet, JsonValue.lookup]

/-- A written time is read back when it is at most the largest signed 64-bit value. -/
theorem timeClaim_ofInt {set : List (String × JsonValue)} {name : String} {x : Int}
    (hset : JsonValue.lookup name set = some (.number (JsonNumber.ofInt x)))
    (hx : x ≤ JsonNumber.int64Max) : timeClaim set name = .ok x := by
  simp [timeClaim, hset, JsonNumber.toInt64?_ofInt x hx]

theorem timeClaim_exp (hexp : c.expiresAt ≤ JsonNumber.int64Max) :
    timeClaim c.toClaimSet "exp" = .ok c.expiresAt :=
  timeClaim_ofInt (lookup_exp c) hexp

/-- **The claims of a written claim set** are the claims written, unless the identity is empty. -/
theorem ofClaimSet_toClaimSet (hiat : c.issuedAt ≤ JsonNumber.int64Max)
    (hexp : c.expiresAt ≤ JsonNumber.int64Max) :
    ofClaimSet c.toClaimSet =
      if c.identity = "" then .error (.claimsMissing "identity") else .ok c := by
  have hi := timeClaim_ofInt (lookup_iat c) hiat
  have he := timeClaim_ofInt (lookup_exp c) hexp
  by_cases hid : c.identity = ""
  · simp [ofClaimSet, stringClaim, hid, bind, Except.bind, throw, throwThe, MonadExceptOf.throw]
  · simp [ofClaimSet, stringClaim, audienceClaim, hid, hi, he, bind, Except.bind, pure,
      Except.pure]

/-- A time within signed 64 bits is written as a scalar the reader keeps whole. -/
theorem scalar_ofInt {x : Int} (hx : InInt64 x) :
    (JsonValue.number (JsonNumber.ofInt x)).Scalar := by
  obtain ⟨hlo, hhi⟩ := hx
  unfold JsonNumber.ofInt
  split
  · refine ⟨by assumption, ?_⟩
    have : (Nat.pow 2 63 : Int) = ((Nat.pow 2 63 : Nat) : Int) := rfl
    omega
  · show _ ≤ Json.uint64Max
    have : (JsonNumber.int64Max : Int) ≤ (Json.uint64Max : Int) := by decide
    omega

/-- **The JSON text of a written claim set reads back as the claim set.** -/
theorem parseValue_toClaimSet (hiat : InInt64 c.issuedAt) (hexp : InInt64 c.expiresAt) :
    Json.parseValue (JsonValue.object c.toClaimSet).render.toUTF8.toList =
      .ok (.object c.toClaimSet) := by
  apply Json.parseValue_render_object
  · simp only [toClaimSet, List.mem_cons, List.not_mem_nil, or_false]
    rintro p (rfl | rfl | rfl | rfl | rfl | rfl)
    · trivial
    · exact scalar_ofInt hexp
    · exact scalar_ofInt hiat
    · trivial
    · trivial
    · trivial
  · -- the members are written in sorted order of their names
    have hnames : c.toClaimSet.map Prod.fst = ["aud", "exp", "iat", "identity", "iss", "sub"] :=
      rfl
    refine (List.pairwise_map (f := Prod.fst) (R := fun x y : String => x < y)).mp ?_
    rw [hnames]
    decide

end Written

end Claims

end Backoffice
