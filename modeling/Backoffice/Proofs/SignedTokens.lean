import Backoffice.Token.Issue
import Backoffice.Proofs.TokenVerification
import Backoffice.Proofs.ClaimSchema

/-! # Signed tokens read back

A token signed with a key is verified with the same key: its form is the one signing wrote, so
only the expiry and the identity can refuse it. From that, the tokens an issuer hands out are
valid exactly for their windows.

* **`SigningKey.ValidThrough`** — a token that verifies to some claims at every second before
  their expiry, and is `expired` from the expiry on.
* **`verifyAt_sign`** — verifying a signed token gives `expired` from the expiry on, the missing
  identity when it is empty, and otherwise the claims signed, whatever the texts; the two times
  need only fit signed 64 bits.
* **`verifyAt_bounds_expiry_only`** — verified claims expire after `now`, and that is the only
  bound on their times: a signed token is accepted whatever its issue time, also one after its
  expiry.
* **`wholeSeconds_bounds_of_make`** — a policy that `TokenPolicy.make` accepts has windows of one
  second up to a hundred years of 365 days, counted in whole seconds.
* **`issueAt_windows`** — a pair issued at a second of the years -9999 to 9999 holds an access
  and a refresh token, each valid through its window from that second; the two are equal
  exactly when the windows are. -/

namespace Backoffice

/-! ## Windows of a policy -/

namespace Duration

/-- A span of no negative length has its whole seconds by floor division. -/
theorem wholeSeconds_of_nonneg {d : Duration} (h : 0 ≤ d.nanos) :
    d.wholeSeconds = d.nanos / 1000000000 :=
  Int.tdiv_eq_ediv_of_nonneg h

/-- A negative span has no positive whole second: truncation goes toward zero. -/
theorem wholeSeconds_nonpos {d : Duration} (h : d.nanos < 0) : d.wholeSeconds ≤ 0 := by
  have hflip : d.wholeSeconds = -((-d.nanos).tdiv nanosPerSecond) := by
    rw [wholeSeconds, ← Int.neg_tdiv, Int.neg_neg]
  rw [hflip, Int.tdiv_eq_ediv_of_nonneg (by omega), nanosPerSecond]
  omega

end Duration

namespace TokenPolicy

/-- A window that passes both checks of `make` lasts one second up to `maxTtl`, in whole
seconds. -/
theorem window_of_checks {d : Duration} (hpos : ¬d.wholeSeconds ≤ 0)
    (hmax : ¬d.nanos > maxTtl.nanos) : 1 ≤ d.wholeSeconds ∧ d.wholeSeconds ≤ 3153600000 := by
  by_cases hn : 0 ≤ d.nanos
  · have hcap : maxTtl.nanos = 3153600000 * 1000000000 := rfl
    rw [Duration.wholeSeconds_of_nonneg hn] at hpos ⊢
    omega
  · exact absurd (Duration.wholeSeconds_nonpos (by omega)) hpos

/-- **The windows of an accepted policy** last one second up to a hundred years of 365 days. -/
theorem wholeSeconds_bounds_of_make {issuer audience : String} {accessTtl refreshTtl : Duration}
    {P : TokenPolicy} (h : make issuer audience accessTtl refreshTtl = .ok P) :
    (1 ≤ P.accessTtl.wholeSeconds ∧ P.accessTtl.wholeSeconds ≤ 3153600000) ∧
    (1 ≤ P.refreshTtl.wholeSeconds ∧ P.refreshTtl.wholeSeconds ≤ 3153600000) := by
  unfold make at h
  -- the four refusals are no policy, so only the branch that builds one is left
  split_ifs at h with haccess hrefresh haccessMax hrefreshMax
  cases h
  exact ⟨window_of_checks haccess haccessMax, window_of_checks hrefresh hrefreshMax⟩

end TokenPolicy

/-! ## Signed tokens -/

namespace SigningKey

/-- **A token valid through the window of its claims**: before their expiry it verifies to
them, and from the expiry on it is `expired`. -/
def ValidThrough (k : SigningKey) (token : String) (claims : Claims) : Prop :=
  ∀ now, k.verifyAt token now = if now < claims.expiresAt then .ok claims else .error .expired

/-- A token valid through the windows of two claims, both open at one second, names one of
them. -/
theorem eq_of_validThrough {k : SigningKey} {token : String} {c c' : Claims} (now : Int)
    (h : k.ValidThrough token c) (h' : k.ValidThrough token c') (hc : now < c.expiresAt)
    (hc' : now < c'.expiresAt) : c = c' := by
  have hboth := h now
  rw [h' now, if_pos hc, if_pos hc'] at hboth
  exact (Except.ok.inj hboth).symm

/-- The header every token carries names the algorithm. -/
theorem decodeRecord_headerText :
    Json.decodeRecord headerShape headerText.toUTF8.toList = .ok [some algorithm] := by
  cbv

section Signed

variable (k : SigningKey) (c : Claims)

/-- **The form of a signed token** is the one signing wrote: the header and the claim set
encoded, the signature of the two, the algorithm and the claim set. -/
theorem readForm_sign (hiat : InInt64 c.issuedAt) (hexp : InInt64 c.expiresAt) :
    readForm (k.sign c) =
      .ok (b64 headerText.toUTF8.toList, b64 (JsonValue.object c.toClaimSet).render.toUTF8.toList,
        k.signatureOf (b64 headerText.toUTF8.toList ++ "." ++
          b64 (JsonValue.object c.toClaimSet).render.toUTF8.toList),
        algorithm, c.toClaimSet) :=
  readForm_eq_ok_iff.mpr ⟨_, _, rfl, rfl, rfl, signatureOf_safe k _, decodeRecord_headerText,
    Claims.parseValue_toClaimSet c hiat hexp⟩

/-- **The checks pass a signed claim set** but for its expiry and its identity. -/
theorem checkForm_signed (hiat : c.issuedAt ≤ JsonNumber.int64Max)
    (hexp : c.expiresAt ≤ JsonNumber.int64Max) (header claimsPart : String) (now : Int) :
    k.checkForm now (header, claimsPart, k.signatureOf (header ++ "." ++ claimsPart), algorithm,
        c.toClaimSet) =
      if now ≥ c.expiresAt then .error .expired
      else if c.identity = "" then .error (.claimsMissing "identity") else .ok c := by
  simp [checkForm, Claims.timeClaim_exp c hexp, Claims.ofClaimSet_toClaimSet c hiat hexp]

/-- **Signing and verifying round-trip every claims**: a signed token is `expired` from its
expiry on, refused for an empty identity, and otherwise verifies to the claims signed. The
texts are any strings; the times any signed 64-bit seconds. -/
theorem verifyAt_sign (now : Int) (hiat : InInt64 c.issuedAt) (hexp : InInt64 c.expiresAt) :
    k.verifyAt (k.sign c) now =
      if now ≥ c.expiresAt then .error .expired
      else if c.identity = "" then .error (.claimsMissing "identity") else .ok c := by
  rw [verifyAt_of_readForm_ok (readForm_sign k c hiat hexp), checkForm_signed k c hiat.2 hexp.2]

/-- The round trip at the two ends of the signed 64-bit seconds. -/
theorem verifyAt_sign_extreme_times :
    InInt64 (-9223372036854775808) ∧ InInt64 9223372036854775807 ∧
      SigningKey.verifyAt ⟨[0x6B]⟩
          (SigningKey.sign ⟨[0x6B]⟩
            ⟨"\"\\ ", "iss", "sub", "aud", -9223372036854775808, 9223372036854775807⟩) 0 =
        if (0 : Int) ≥ 9223372036854775807 then .error .expired
        else if "\"\\ " = "" then .error (.claimsMissing "identity")
        else .ok ⟨"\"\\ ", "iss", "sub", "aud", -9223372036854775808, 9223372036854775807⟩ :=
  ⟨by decide, by decide, verifyAt_sign ⟨[0x6B]⟩ _ 0 (by decide) (by decide)⟩

/-- A signed token with an identity is valid through the window of its claims. -/
theorem validThrough_sign (hiat : InInt64 c.issuedAt) (hexp : InInt64 c.expiresAt)
    (hid : c.identity ≠ "") : k.ValidThrough (k.sign c) c := by
  intro now
  rw [verifyAt_of_readForm_ok (readForm_sign k c hiat hexp), checkForm_signed k c hiat.2 hexp.2]
  by_cases hnow : now < c.expiresAt
  · rw [if_neg (by omega), if_neg hid, if_pos hnow]
  · rw [if_pos (by omega), if_neg hnow]

end Signed

/-! ## What verification bounds -/

/-- **Verified claims expire after `now`**: the expiry checked is the one the claims carry. -/
theorem expiresAt_of_verifyAt {k : SigningKey} {token : String} {now : Int} {c : Claims}
    (h : k.verifyAt token now = .ok c) : now < c.expiresAt := by
  obtain ⟨-, -, set, exp, -, hexp, hnow, hclaims⟩ := (verifyAt_eq_ok_iff_readForm k token now c).mp h
  obtain ⟨-, -, -, -, -, -, hset⟩ := Claims.ofClaimSet_eq_ok_iff.mp hclaims
  have hsame : Except.ok c.expiresAt = Except.ok (ε := TokenError) exp :=
    (Claims.timeClaim_eq_ok_iff.mpr hset).symm.trans hexp
  rw [Except.ok.injEq] at hsame
  omega

/-- **Verification bounds the expiry alone.** Claims a key verifies at `now` expire after `now`;
and every claims with an identity and signed 64-bit times that expire after `now` are verified
from the token the key signs for them, whatever their issue time, so also when it is not before
their expiry. -/
theorem verifyAt_bounds_expiry_only (k : SigningKey) (now : Int) :
    (∀ token c, k.verifyAt token now = .ok c → now < c.expiresAt) ∧
    (∀ c : Claims, c.identity ≠ "" → InInt64 c.issuedAt → InInt64 c.expiresAt →
      now < c.expiresAt → k.verifyAt (k.sign c) now = .ok c) :=
  ⟨fun _ _ => expiresAt_of_verifyAt, fun c hid hiat hexp hnow => by
    rw [validThrough_sign k c hiat hexp hid now, if_pos hnow]⟩

/-- A token of an hour's claims, verified in their first second. -/
theorem verifyAt_bounds_expiry_only_hour_token :
    ("alice" ≠ "" ∧ InInt64 1700000000 ∧ InInt64 1700003600 ∧ (1700000000 : Int) < 1700003600) ∧
    SigningKey.verifyAt ⟨[0x6B]⟩
        (SigningKey.sign ⟨[0x6B]⟩
          ⟨"alice", "flexio-backend", "alice", "flexio-admin", 1700000000, 1700003600⟩) 1700000000 =
      .ok ⟨"alice", "flexio-backend", "alice", "flexio-admin", 1700000000, 1700003600⟩ :=
  ⟨⟨by decide, by decide, by decide, by decide⟩,
    (verifyAt_bounds_expiry_only ⟨[0x6B]⟩ 1700000000).2 _ (by decide) (by decide) (by decide)
      (by decide)⟩

/-- **Claims issued after their expiry are verified**: under the key of the secret `test-secret`,
claims issued an hour after they expire verify before the expiry, with a negative lifetime. -/
theorem verifyAt_issued_after_expiry :
    SigningKey.make [0x74, 0x65, 0x73, 0x74, 0x2D, 0x73, 0x65, 0x63, 0x72, 0x65, 0x74] =
      .ok ⟨[0x74, 0x65, 0x73, 0x74, 0x2D, 0x73, 0x65, 0x63, 0x72, 0x65, 0x74]⟩ ∧
    SigningKey.verifyAt ⟨[0x74, 0x65, 0x73, 0x74, 0x2D, 0x73, 0x65, 0x63, 0x72, 0x65, 0x74]⟩
        (SigningKey.sign ⟨[0x74, 0x65, 0x73, 0x74, 0x2D, 0x73, 0x65, 0x63, 0x72, 0x65, 0x74]⟩
          ⟨"alice", "flexio-backend", "alice", "flexio-admin", 1700007200, 1700003600⟩) 1700000000 =
      .ok ⟨"alice", "flexio-backend", "alice", "flexio-admin", 1700007200, 1700003600⟩ ∧
    ¬(1700003600 : Int) > 1700007200 ∧
    Claims.lifetime ⟨"alice", "flexio-backend", "alice", "flexio-admin", 1700007200, 1700003600⟩ =
      -3600 := by
  refine ⟨rfl, ?_, by decide, by decide⟩
  rw [validThrough_sign _ _ (by decide) (by decide) (by decide), if_pos (by decide)]

end SigningKey

/-! ## Issued pairs -/

namespace TokenIssuer

/-- Every second of the years -9999 to 9999, and that second plus a window of at most a hundred
years, fit signed 64 bits. -/
theorem inInt64_of_year_range {s w : Int} (hlo : -377705116800 ≤ s) (hhi : s ≤ 253402300799)
    (hw : 1 ≤ w) (hw' : w ≤ 3153600000) : InInt64 s ∧ InInt64 (s + w) := by
  have hmin : (Nat.pow 2 63 : Int) = 9223372036854775808 := rfl
  have hmax : (JsonNumber.int64Max : Int) = 9223372036854775807 := rfl
  unfold InInt64
  omega

/-- **Issued pairs are valid exactly through the policy's windows.** For a policy that `make`
accepts, a nonempty identity and a second of the years -9999 to 9999, the windows last one
second up to a hundred years and end within signed 64 bits; the pair is issued, its access and
refresh tokens verify to the identity's claims exactly before the end of their windows (also at
seconds before the issue), and they are equal exactly when the windows are. The empty identity
is refused. -/
theorem issueAt_windows (k : SigningKey) {issuer audience : String}
    {accessTtl refreshTtl : Duration} {P : TokenPolicy}
    (hP : TokenPolicy.make issuer audience accessTtl refreshTtl = .ok P) {id : String}
    (hid : id ≠ "") {s : Int} (hlo : -377705116800 ≤ s) (hhi : s ≤ 253402300799) :
    (1 ≤ P.accessTtl.wholeSeconds ∧ P.accessTtl.wholeSeconds ≤ 3153600000 ∧
      1 ≤ P.refreshTtl.wholeSeconds ∧ P.refreshTtl.wholeSeconds ≤ 3153600000) ∧
    (InInt64 (s + P.accessTtl.wholeSeconds) ∧ InInt64 (s + P.refreshTtl.wholeSeconds)) ∧
    (∃ pair, issueAt ⟨k, P⟩ id s = .ok pair ∧
      k.ValidThrough pair.access
        { identity := id, issuer := P.issuer, subject := id, audience := P.audience,
          issuedAt := s, expiresAt := s + P.accessTtl.wholeSeconds } ∧
      k.ValidThrough pair.refresh
        { identity := id, issuer := P.issuer, subject := id, audience := P.audience,
          issuedAt := s, expiresAt := s + P.refreshTtl.wholeSeconds } ∧
      (pair.access = pair.refresh ↔ P.accessTtl.wholeSeconds = P.refreshTtl.wholeSeconds)) ∧
    issueAt ⟨k, P⟩ "" s = .error .emptyIdentity := by
  obtain ⟨⟨ha, ha'⟩, hr, hr'⟩ := TokenPolicy.wholeSeconds_bounds_of_make hP
  obtain ⟨hs, hsa⟩ := inInt64_of_year_range hlo hhi ha ha'
  obtain ⟨-, hsr⟩ := inInt64_of_year_range hlo hhi hr hr'
  have hvA := SigningKey.validThrough_sign k (claimsFor ⟨k, P⟩ id s P.accessTtl) hs hsa hid
  have hvR := SigningKey.validThrough_sign k (claimsFor ⟨k, P⟩ id s P.refreshTtl) hs hsr hid
  have hissue : issueAt ⟨k, P⟩ id s = .ok ⟨k.sign (claimsFor ⟨k, P⟩ id s P.accessTtl),
      k.sign (claimsFor ⟨k, P⟩ id s P.refreshTtl)⟩ := by
    simp [issueAt, String.isEmpty_iff, hid]
  refine ⟨⟨ha, ha', hr, hr'⟩, ⟨hsa, hsr⟩, ⟨_, hissue, hvA, hvR, ?_⟩, by simp [issueAt]⟩
  constructor
  · intro heq
    dsimp only at heq
    -- both tokens verify at the issue second, to the claims of their own windows
    have hsame := SigningKey.eq_of_validThrough s (heq ▸ hvA) hvR
      (show s < s + P.accessTtl.wholeSeconds by omega)
      (show s < s + P.refreshTtl.wholeSeconds by omega)
    have hend := congrArg Claims.expiresAt hsame
    simpa [claimsFor, Claims.forIdentity] using hend
  · intro hw
    simp [claimsFor, hw]

/-- The default policy, issuing at the last second of the year 9999. -/
theorem issueAt_windows_default_policy :
    TokenPolicy.make TokenPolicy.defaultIssuer TokenPolicy.defaultAudience
        (Duration.ofSeconds (365 * 86400)) (Duration.ofSeconds (730 * 86400)) =
      .ok TokenPolicy.default ∧
    "alice" ≠ "" ∧ (-377705116800 : Int) ≤ 253402300799 ∧ (253402300799 : Int) ≤ 253402300799 ∧
    ((1 ≤ TokenPolicy.default.accessTtl.wholeSeconds ∧
        TokenPolicy.default.accessTtl.wholeSeconds ≤ 3153600000 ∧
        1 ≤ TokenPolicy.default.refreshTtl.wholeSeconds ∧
        TokenPolicy.default.refreshTtl.wholeSeconds ≤ 3153600000) ∧
      (InInt64 (253402300799 + TokenPolicy.default.accessTtl.wholeSeconds) ∧
        InInt64 (253402300799 + TokenPolicy.default.refreshTtl.wholeSeconds)) ∧
      (∃ pair, issueAt ⟨⟨[0x6B]⟩, TokenPolicy.default⟩ "alice" 253402300799 = .ok pair ∧
        SigningKey.ValidThrough ⟨[0x6B]⟩ pair.access
          { identity := "alice", issuer := TokenPolicy.default.issuer, subject := "alice",
            audience := TokenPolicy.default.audience, issuedAt := 253402300799,
            expiresAt := 253402300799 + TokenPolicy.default.accessTtl.wholeSeconds } ∧
        SigningKey.ValidThrough ⟨[0x6B]⟩ pair.refresh
          { identity := "alice", issuer := TokenPolicy.default.issuer, subject := "alice",
            audience := TokenPolicy.default.audience, issuedAt := 253402300799,
            expiresAt := 253402300799 + TokenPolicy.default.refreshTtl.wholeSeconds } ∧
        (pair.access = pair.refresh ↔
          TokenPolicy.default.accessTtl.wholeSeconds =
            TokenPolicy.default.refreshTtl.wholeSeconds)) ∧
      issueAt ⟨⟨[0x6B]⟩, TokenPolicy.default⟩ "" 253402300799 = .error .emptyIdentity) := by
  have hP : TokenPolicy.make TokenPolicy.defaultIssuer TokenPolicy.defaultAudience
      (Duration.ofSeconds (365 * 86400)) (Duration.ofSeconds (730 * 86400)) =
        .ok TokenPolicy.default := rfl
  exact ⟨hP, by decide, by decide, by decide,
    issueAt_windows ⟨[0x6B]⟩ hP (by decide) (by decide) (by decide)⟩

end TokenIssuer

end Backoffice
