import Backoffice.Proofs.SignedTokens
import Backoffice.Api.Service

/-! # Refreshing token pairs

`refreshAt` verifies the token it is given and issues a new pair for the identity it names.
Verification never accepts an empty identity, and issuing refuses nothing else, so the second
step cannot fail.

* **`refreshAt_of_verifyAt_error`**, **`refreshAt_of_verifyAt_ok`** — a refresh answers the
  verifier's refusal as is, and otherwise what issuing answers for the verified identity.
* **`refreshAt_ne_issue`** — no refresh fails at issuing.
* **`respond_refreshToken_status`** — the refresh endpoint answers 200, 400, 401 or 405, so
  never 500.
* **`refreshAt_of_validThrough`** — a token valid through its claims is exchanged, at every
  second before their expiry, for the pair issued to their identity at that second.
* **`refreshAt_verify_then_issue`** — the above for a key shared by verifier and issuer: any
  token of an issued pair is exchanged before its expiry for the pair issued then, and within
  the second of issue for the very same pair. -/

namespace Backoffice

/-! ## Verified claims name someone -/

/-- Claims read from a claim set have an identity: the empty one is refused first. -/
theorem Claims.identity_ne_of_ofClaimSet {set : List (String × JsonValue)} {c : Claims}
    (h : Claims.ofClaimSet set = .ok c) : c.identity ≠ "" :=
  (Claims.ofClaimSet_eq_ok_iff.mp h).2.1

/-- **A verified token names someone**: its identity is not empty. -/
theorem SigningKey.identity_ne_of_verifyAt {k : SigningKey} {token : String} {now : Int}
    {c : Claims} (h : k.verifyAt token now = .ok c) : c.identity ≠ "" := by
  obtain ⟨_, _, _, _, -, -, -, hclaims⟩ :=
    (SigningKey.verifyAt_eq_ok_iff_readForm k token now c).mp h
  exact Claims.identity_ne_of_ofClaimSet hclaims

/-! ## Issued tokens -/

namespace TokenIssuer

/-- An identity that is not empty is always issued a pair: the two tokens of its claims. -/
theorem issueAt_of_ne_empty (i : TokenIssuer) {identity : String} (h : identity ≠ "")
    (now : Int) :
    i.issueAt identity now =
      .ok ⟨i.key.sign (i.claimsFor identity now i.policy.accessTtl),
        i.key.sign (i.claimsFor identity now i.policy.refreshTtl)⟩ := by
  simp [issueAt, String.isEmpty_iff, h]

/-- **Both tokens of an issued pair are valid through their windows**, for a policy that `make`
accepts and a second of the years -9999 to 9999. -/
theorem validThrough_issueAt (k : SigningKey) {issuer audience : String}
    {accessTtl refreshTtl : Duration} {P : TokenPolicy}
    (hP : TokenPolicy.make issuer audience accessTtl refreshTtl = .ok P) {id : String} {s : Int}
    (hlo : -377705116800 ≤ s) (hhi : s ≤ 253402300799) {pair : TokenPair}
    (h : issueAt ⟨k, P⟩ id s = .ok pair) :
    k.ValidThrough pair.access
        (Claims.forIdentity id P.issuer P.audience s (s + P.accessTtl.wholeSeconds)) ∧
      k.ValidThrough pair.refresh
        (Claims.forIdentity id P.issuer P.audience s (s + P.refreshTtl.wholeSeconds)) := by
  have hid : id ≠ "" := by
    rintro rfl
    simp [issueAt] at h
  rw [issueAt_of_ne_empty _ hid, Except.ok.injEq] at h
  subst h
  obtain ⟨⟨ha, ha'⟩, hr, hr'⟩ := TokenPolicy.wholeSeconds_bounds_of_make hP
  obtain ⟨hs, hsa⟩ := inInt64_of_year_range hlo hhi ha ha'
  obtain ⟨-, hsr⟩ := inInt64_of_year_range hlo hhi hr hr'
  exact ⟨SigningKey.validThrough_sign k _ hs hsa hid, SigningKey.validThrough_sign k _ hs hsr hid⟩

end TokenIssuer

/-! ## Refresh is verification, then issuance -/

/-- A refused token is a refused refresh, for the same reason. -/
theorem refreshAt_of_verifyAt_error {v : SigningKey} (i : TokenIssuer) {token : String}
    {now : Int} {e : TokenError} (h : v.verifyAt token now = .error e) :
    refreshAt v i token now = .error (.token e) := by
  simp [refreshAt, h]

/-- A verified token is exchanged for what issuing answers for its identity. -/
theorem refreshAt_of_verifyAt_ok {v : SigningKey} (i : TokenIssuer) {token : String} {now : Int}
    {c : Claims} (h : v.verifyAt token now = .ok c) :
    refreshAt v i token now = (i.issueAt c.identity now).mapError .issue := by
  simp [refreshAt, h, i.issueAt_of_ne_empty (SigningKey.identity_ne_of_verifyAt h),
    Except.mapError]

/-- **No refresh fails at issuing**: the identity verified is never empty. -/
theorem refreshAt_ne_issue (v : SigningKey) (i : TokenIssuer) (token : String) (now : Int)
    (e : IssueError) : refreshAt v i token now ≠ .error (.issue e) := by
  cases hv : v.verifyAt token now with
  | error e' => simp [refreshAt_of_verifyAt_error i hv]
  | ok c =>
    rw [refreshAt_of_verifyAt_ok i hv,
      i.issueAt_of_ne_empty (SigningKey.identity_ne_of_verifyAt hv)]
    simp [Except.mapError]

/-- **A token valid through its claims is exchanged**, at every second before their expiry,
for the pair issued to their identity at that second. -/
theorem refreshAt_of_validThrough {k : SigningKey} (i : TokenIssuer) {X : String} {c : Claims}
    (hX : k.ValidThrough X c) {now : Int} (hnow : now < c.expiresAt) :
    refreshAt k i X now = (i.issueAt c.identity now).mapError .issue := by
  have hv : k.verifyAt X now = .ok c := by rw [hX now, if_pos hnow]
  exact refreshAt_of_verifyAt_ok i hv

/-! ## The refresh endpoint -/

namespace Http.Response

@[simp] theorem defaultHeader_status (r : Response) (name value : String) :
    (r.defaultHeader name value).status = r.status := by
  unfold defaultHeader
  split <;> rfl

end Http.Response

namespace Api.Service

@[simp] theorem finishAt_status (m : Method) (allow : Option String) (r : Http.Response) :
    (finishAt m allow r).status = r.status := by
  unfold finishAt
  split <;> split <;> simp

@[simp] theorem withGuards_status (r : Http.Response) : (withGuards r).status = r.status := by
  simp [withGuards]

@[simp] theorem withCors_status (s : Service) (r : Http.Response) :
    (s.withCors r).status = r.status := rfl

/-- A refresh through the API gives a pair, or refuses the body as invalid input, or refuses
the token; it changes nothing. -/
theorem perform_refresh_cases (s : Service) (now : Int) (actor : String) (req : Http.Request) :
    (∃ pair, s.perform now actor req .refresh = .ok (.json 200 (success (tokenView pair)), s)) ∨
    (∃ m, s.perform now actor req .refresh = .error (.invalidInput m)) ∨
    (∃ te, s.perform now actor req .refresh = .error (.unauthorized (.token te))) := by
  simp only [perform, bind, Except.bind]
  cases hb : readRefresh req with
  | error r =>
    exact .inr (.inl ⟨r.message, by simp [Except.mapError, BodyRejection.toAppError]⟩)
  | ok body =>
    simp only [Except.mapError]
    by_cases he : body.refreshToken.isEmpty = true
    · exact .inr (.inl ⟨"Refresh token is required",
        by simp [he, throw, throwThe, MonadExceptOf.throw]⟩)
    simp only [he]
    cases hr : refreshAt s.directory.tokens.verifier s.directory.tokens.issuer
        body.refreshToken now with
    | error e =>
      cases e with
      | token te =>
        exact .inr (.inr ⟨te, by
          simp [Directory.refresh, hr, Except.mapError, AppError.ofRefresh, AppError.ofToken]⟩)
      | issue ie => exact absurd hr (refreshAt_ne_issue _ _ _ _ ie)
    | ok pair =>
      exact .inl ⟨pair, by simp [Directory.refresh, hr, Except.mapError, pure, Except.pure]⟩

/-- The refresh endpoint answers `POST` alone, with a refresh. -/
theorem action?_refreshToken {m : Method} {a : Action}
    (h : Endpoint.refreshToken.action? m = some a) : a = .refresh := by
  cases m <;> simp [Endpoint.action?, Endpoint.onGet] at h
  exact h.symm

/-- **The refresh endpoint never answers 500**: a preflight or a pair is 200, a refused body
400, a refused token 401, any other method 405. -/
theorem respond_refreshToken_status (s : Service) (now : Int) (req : Http.Request)
    (h : Endpoint.ofPath? req.route = some .refreshToken) :
    (s.respond now req).1.status ∈ [200, 400, 401, 405] := by
  unfold respond
  rw [h]
  simp only
  split
  · simp [preflight]
  · cases ha : Endpoint.refreshToken.action? (Method.ofName req.method) with
    | some a =>
      obtain rfl := action?_refreshToken ha
      -- no gate: the refresh itself decides the answer
      simp only [serve, Endpoint.isGated]
      rcases perform_refresh_cases s now "" req with ⟨pair, hp⟩ | ⟨m, hp⟩ | ⟨te, hp⟩ <;>
        simp [bind, Except.bind, hp, AppError.response, Http.Response.json]
    | none => simp [refuseMethod, Endpoint.isGated, Http.Response.empty]

end Api.Service

/-! ## Refresh under one key -/

/-- **Refresh is verification followed by issuance, and issuance never fails.** For a key that
both verifies and signs and a policy that `make` accepts: a refused token is a refused refresh;
a verified one is exchanged for the pair issued to its identity now; no refresh fails at
issuing, and the refresh endpoint never answers 500. Hence any token of a pair issued at an
instant of the years -9999 to 9999 is exchanged, at every instant before its expiry, for the
pair issued then, and within the second of issue for the very same pair. -/
theorem refreshAt_verify_then_issue (k : SigningKey) {issuer audience : String}
    {accessTtl refreshTtl : Duration} {P : TokenPolicy}
    (hP : TokenPolicy.make issuer audience accessTtl refreshTtl = .ok P) (token : String)
    (now : Int) :
    (∀ e, k.verifyAt token now = .error e → refreshAt k ⟨k, P⟩ token now = .error (.token e)) ∧
    (∀ c, k.verifyAt token now = .ok c →
      (∃ pair, TokenIssuer.issueAt ⟨k, P⟩ c.identity now = .ok pair) ∧
      refreshAt k ⟨k, P⟩ token now = (TokenIssuer.issueAt ⟨k, P⟩ c.identity now).mapError .issue) ∧
    (∀ e, refreshAt k ⟨k, P⟩ token now ≠ .error (.issue e)) ∧
    (∀ (s : Api.Service) (req : Http.Request),
      Api.Endpoint.ofPath? req.route = some .refreshToken → (s.respond now req).1.status ≠ 500) ∧
    (∀ (id : String) (t t' : Instant) (pair : TokenPair),
      -377705116800 ≤ t.unixSecond → t.unixSecond ≤ 253402300799 →
      TokenIssuer.issueAt ⟨k, P⟩ id t.unixSecond = .ok pair →
      (t'.unixSecond < t.unixSecond + P.accessTtl.wholeSeconds →
        refreshAt k ⟨k, P⟩ pair.access t'.unixSecond =
          (TokenIssuer.issueAt ⟨k, P⟩ id t'.unixSecond).mapError .issue) ∧
      (t'.unixSecond < t.unixSecond + P.refreshTtl.wholeSeconds →
        refreshAt k ⟨k, P⟩ pair.refresh t'.unixSecond =
          (TokenIssuer.issueAt ⟨k, P⟩ id t'.unixSecond).mapError .issue) ∧
      (t'.unixSecond = t.unixSecond →
        refreshAt k ⟨k, P⟩ pair.access t'.unixSecond = .ok pair ∧
          refreshAt k ⟨k, P⟩ pair.refresh t'.unixSecond = .ok pair)) := by
  refine ⟨fun e hv => refreshAt_of_verifyAt_error _ hv, fun c hv => ⟨?_, refreshAt_of_verifyAt_ok _ hv⟩,
    refreshAt_ne_issue k _ token now, fun s req hroute hstatus => ?_, ?_⟩
  · exact ⟨_, TokenIssuer.issueAt_of_ne_empty _ (SigningKey.identity_ne_of_verifyAt hv) now⟩
  · have hmem := Api.Service.respond_refreshToken_status s now req hroute
    rw [hstatus] at hmem
    simp at hmem
  · intro id t t' pair hlo hhi hpair
    obtain ⟨hA, hR⟩ := TokenIssuer.validThrough_issueAt k hP hlo hhi hpair
    obtain ⟨⟨ha, -⟩, hr, -⟩ := TokenPolicy.wholeSeconds_bounds_of_make hP
    refine ⟨fun hexp => refreshAt_of_validThrough _ hA hexp,
      fun hexp => refreshAt_of_validThrough _ hR hexp, fun hsame => ?_⟩
    -- within the second of issue, issuing again gives back the same pair
    rw [refreshAt_of_validThrough _ hA (by simp [Claims.forIdentity]; omega),
      refreshAt_of_validThrough _ hR (by simp [Claims.forIdentity]; omega)]
    simp [Claims.forIdentity, hsame, hpair, Except.mapError]

/-- The default policy: the pair issued to `alice` at 2023-11-14 22:13:20 is given back by a
refresh half a second later. -/
theorem refreshAt_verify_then_issue_default_policy :
    TokenPolicy.make TokenPolicy.defaultIssuer TokenPolicy.defaultAudience
        (Duration.ofSeconds (365 * 86400)) (Duration.ofSeconds (730 * 86400)) =
      .ok TokenPolicy.default ∧
    (-377705116800 : Int) ≤ (Instant.ofParts 1700000000 0).unixSecond ∧
    (Instant.ofParts 1700000000 0).unixSecond ≤ 253402300799 ∧
    TokenIssuer.issueAt ⟨⟨[0x6B]⟩, TokenPolicy.default⟩ "alice"
        (Instant.ofParts 1700000000 0).unixSecond =
      .ok ⟨SigningKey.sign ⟨[0x6B]⟩ (Claims.forIdentity "alice" TokenPolicy.defaultIssuer
          TokenPolicy.defaultAudience 1700000000 (1700000000 + 365 * 86400)),
        SigningKey.sign ⟨[0x6B]⟩ (Claims.forIdentity "alice" TokenPolicy.defaultIssuer
          TokenPolicy.defaultAudience 1700000000 (1700000000 + 730 * 86400))⟩ ∧
    (Instant.ofParts 1700000000 500000000).unixSecond = (Instant.ofParts 1700000000 0).unixSecond ∧
    refreshAt ⟨[0x6B]⟩ ⟨⟨[0x6B]⟩, TokenPolicy.default⟩
        (SigningKey.sign ⟨[0x6B]⟩ (Claims.forIdentity "alice" TokenPolicy.defaultIssuer
          TokenPolicy.defaultAudience 1700000000 (1700000000 + 730 * 86400)))
        (Instant.ofParts 1700000000 500000000).unixSecond =
      .ok ⟨SigningKey.sign ⟨[0x6B]⟩ (Claims.forIdentity "alice" TokenPolicy.defaultIssuer
          TokenPolicy.defaultAudience 1700000000 (1700000000 + 365 * 86400)),
        SigningKey.sign ⟨[0x6B]⟩ (Claims.forIdentity "alice" TokenPolicy.defaultIssuer
          TokenPolicy.defaultAudience 1700000000 (1700000000 + 730 * 86400))⟩ := by
  have hP : TokenPolicy.make TokenPolicy.defaultIssuer TokenPolicy.defaultAudience
      (Duration.ofSeconds (365 * 86400)) (Duration.ofSeconds (730 * 86400)) =
        .ok TokenPolicy.default := rfl
  have hlo : (-377705116800 : Int) ≤ (Instant.ofParts 1700000000 0).unixSecond := by decide
  have hhi : (Instant.ofParts 1700000000 0).unixSecond ≤ 253402300799 := by decide
  have hsame : (Instant.ofParts 1700000000 500000000).unixSecond =
      (Instant.ofParts 1700000000 0).unixSecond := by decide
  have hpair : TokenIssuer.issueAt ⟨⟨[0x6B]⟩, TokenPolicy.default⟩ "alice"
      (Instant.ofParts 1700000000 0).unixSecond =
        .ok ⟨SigningKey.sign ⟨[0x6B]⟩ (Claims.forIdentity "alice" TokenPolicy.defaultIssuer
            TokenPolicy.defaultAudience 1700000000 (1700000000 + 365 * 86400)),
          SigningKey.sign ⟨[0x6B]⟩ (Claims.forIdentity "alice" TokenPolicy.defaultIssuer
            TokenPolicy.defaultAudience 1700000000 (1700000000 + 730 * 86400))⟩ := by
    rw [show (Instant.ofParts 1700000000 0).unixSecond = 1700000000 by decide]
    rfl
  exact ⟨hP, hlo, hhi, hpair, hsame,
    ((refreshAt_verify_then_issue ⟨[0x6B]⟩ hP "" 0).2.2.2.2 "alice" _ _ _ hlo hhi hpair).2.2
      hsame |>.2⟩

end Backoffice
