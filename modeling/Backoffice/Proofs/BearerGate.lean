import Backoffice.Proofs.SignedTokens
import Backoffice.Proofs.BearerHeader
import Backoffice.Api.Service

/-! # The bearer gate

User information, sign-out and all user administration sit behind `Service.identify`, which
reads the first `Authorization` value, takes the bearer token out of it and verifies the token.
The gate runs before anything else at such an endpoint.

* **`identify_cases`** — the gate's three steps and where each can stop: no header, a value
  that is not text, a value that is not `Bearer <token>`, or a token that does not verify.
* **`identify_eq_missing_iff`**, **`identify_eq_malformed_iff`**,
  **`identify_eq_token_iff`**, **`identify_eq_ok_iff`** — the exact condition of each verdict.
* **`respond_gated`** — at a gated endpoint, a refusal is the whole answer and leaves the
  service as it was; an admitted caller is served by the handler as the verified identity.
* **`respond_gated_route`** — all of it together: which requests get which 401, and that the
  handler, with its reading of the path and the body, runs exactly for a verified token. -/

namespace Backoffice

/-! ## Header text -/

namespace Http

/-- The header text is empty exactly for the empty value. -/
theorem headerText?_eq_some_empty_iff (v : List UInt8) : headerText? v = some "" ↔ v = [] := by
  constructor
  · intro h
    unfold headerText? at h
    split at h
    · simpa using congrArg String.toList (Option.some.inj h)
    · cases h
  · rintro rfl
    rfl

/-- **A value is no header text** exactly when it holds an octet that is neither a tab nor
visible ASCII. -/
theorem headerText?_eq_none_iff (v : List UInt8) :
    headerText? v = none ↔ ∃ b ∈ v, b ≠ 0x09 ∧ (b < 0x20 ∨ 0x7F ≤ b) := by
  unfold headerText?
  split
  · rename_i hall
    simp only [reduceCtorEq, false_iff, not_exists, not_and]
    intro b hb
    have hgood := List.all_eq_true.mp hall b hb
    simp only [Bool.or_eq_true, beq_iff_eq, Bool.and_eq_true, decide_eq_true_eq] at hgood
    simp only [UInt8.le_iff_toNat_le, UInt8.lt_iff_toNat_lt, ne_eq, ← UInt8.toNat_inj] at hgood ⊢
    omega
  · rename_i hall
    simp only [List.all_eq_true, not_forall] at hall
    obtain ⟨b, hb, hbad⟩ := hall
    refine ⟨fun _ => ⟨b, hb, ?_⟩, fun _ => rfl⟩
    simp only [Bool.or_eq_true, beq_iff_eq, Bool.and_eq_true, decide_eq_true_eq] at hbad
    simp only [UInt8.le_iff_toNat_le, UInt8.lt_iff_toNat_lt, ne_eq, ← UInt8.toNat_inj] at hbad ⊢
    omega

end Http

namespace Api.Service

section Gate

variable (s : Service) (now : Int) (req : Http.Request)

/-! ## The three steps of the gate -/

/-- **Where the gate stops**: at a missing header, at a value that is not text, at a text the
bearer scheme refuses, or else at the verdict on the token. -/
theorem identify_cases :
    (req.header? "authorization" = none ∧
      s.identify now req = .error (.unauthorized .missingHeader)) ∨
    (∃ v, req.header? "authorization" = some v ∧ Http.headerText? v = none ∧
      s.identify now req = .error (.unauthorized .malformedHeader)) ∨
    (∃ v text ae, req.header? "authorization" = some v ∧ Http.headerText? v = some text ∧
      extractBearer (some text) = .error ae ∧ s.identify now req = .error (.unauthorized ae)) ∨
    (∃ v text token, req.header? "authorization" = some v ∧ Http.headerText? v = some text ∧
      extractBearer (some text) = .ok token ∧
      s.identify now req =
        ((s.directory.tokens.verifyAt token now).mapError AppError.ofToken).map Claims.identity) := by
  unfold identify
  cases hh : req.header? "authorization" with
  | none =>
    exact .inl ⟨rfl, by simp [bind, Except.bind, pure, Except.pure, extractBearer, Except.mapError]⟩
  | some v =>
    cases ht : Http.headerText? v with
    | none =>
      exact .inr (.inl ⟨v, rfl, ht,
        by simp [ht, bind, Except.bind, throw, throwThe, MonadExceptOf.throw]⟩)
    | some text =>
      cases hb : extractBearer (some text) with
      | error ae =>
        exact .inr (.inr (.inl ⟨v, text, ae, rfl, ht, hb,
          by simp [ht, hb, bind, Except.bind, pure, Except.pure, Except.mapError]⟩))
      | ok token =>
        refine .inr (.inr (.inr ⟨v, text, token, rfl, ht, hb, ?_⟩))
        cases hv : s.directory.tokens.verifyAt token now <;>
          simp [ht, hb, hv, bind, Except.bind, pure, Except.pure, Except.mapError, Except.map]

/-- The verdict on a token, as the gate answers it. -/
theorem verdict_eq_error_iff {r : Except TokenError Claims} {ae : AuthError} :
    (r.mapError AppError.ofToken).map Claims.identity = .error (.unauthorized ae) ↔
      ∃ te, r = .error te ∧ ae = .token te := by
  cases r <;> simp [Except.mapError, Except.map, AppError.ofToken, eq_comm]

theorem verdict_eq_ok_iff {r : Except TokenError Claims} {id : String} :
    (r.mapError AppError.ofToken).map Claims.identity = .ok id ↔
      ∃ c, r = .ok c ∧ id = c.identity := by
  cases r <;> simp [Except.mapError, Except.map, eq_comm]

/-- The gate refuses only for the credentials. -/
theorem identify_error_or_ok :
    (∃ ae, s.identify now req = .error (.unauthorized ae)) ∨ ∃ id, s.identify now req = .ok id := by
  rcases identify_cases s now req with ⟨-, hi⟩ | ⟨-, -, -, hi⟩ | ⟨-, -, ae, -, -, -, hi⟩ |
    ⟨-, -, token, -, -, -, hi⟩
  · exact .inl ⟨_, hi⟩
  · exact .inl ⟨_, hi⟩
  · exact .inl ⟨_, hi⟩
  · rw [hi]
    cases hv : s.directory.tokens.verifyAt token now with
    | error te => exact .inl ⟨.token te, verdict_eq_error_iff.mpr ⟨te, rfl, rfl⟩⟩
    | ok c => exact .inr ⟨c.identity, verdict_eq_ok_iff.mpr ⟨c, rfl, rfl⟩⟩

/-! ## The verdicts -/

/-- **A missing header** is no `Authorization` value, or an empty one. -/
theorem identify_eq_missing_iff :
    s.identify now req = .error (.unauthorized .missingHeader) ↔
      req.header? "authorization" = none ∨ req.header? "authorization" = some [] := by
  rcases identify_cases s now req with ⟨hh, hi⟩ | ⟨v, hh, ht, hi⟩ | ⟨v, text, ae, hh, ht, hb, hi⟩ |
    ⟨v, text, token, hh, ht, hb, hi⟩
  · simp [hh, hi]
  · -- the empty value is text, so this one is not empty
    have hv : v ≠ [] := by
      rintro rfl
      rw [(Http.headerText?_eq_some_empty_iff []).mpr rfl] at ht
      cases ht
    simp [hi, hh, hv]
  · rw [hi, hh]
    simp only [Except.error.injEq, AppError.unauthorized.injEq, reduceCtorEq, Option.some.injEq,
      false_or]
    constructor
    · rintro rfl
      exact (Http.headerText?_eq_some_empty_iff v).mp
        (((extractBearer_some_eq_missing_iff text).mp hb) ▸ ht)
    · rintro rfl
      rw [(Http.headerText?_eq_some_empty_iff []).mpr rfl, Option.some.injEq] at ht
      subst ht
      exact Except.error.inj (hb.symm.trans ((extractBearer_some_eq_missing_iff "").mpr rfl))
  · -- a token was read, so the value was not empty and the refusal, if any, is the token's
    have hv : v ≠ [] := by
      rintro rfl
      rw [(Http.headerText?_eq_some_empty_iff []).mpr rfl, Option.some.injEq] at ht
      subst ht
      rw [(extractBearer_some_eq_missing_iff "").mpr rfl] at hb
      cases hb
    rw [hi, hh, verdict_eq_error_iff]
    simp [hv]

/-- **A malformed header** holds an octet that is neither a tab nor visible ASCII, or is text
the bearer scheme refuses. -/
theorem identify_eq_malformed_iff :
    s.identify now req = .error (.unauthorized .malformedHeader) ↔
      ∃ v, req.header? "authorization" = some v ∧
        ((∃ b ∈ v, b ≠ 0x09 ∧ (b < 0x20 ∨ 0x7F ≤ b)) ∨
          ∃ text, Http.headerText? v = some text ∧
            extractBearer (some text) = .error .malformedHeader) := by
  rcases identify_cases s now req with ⟨hh, hi⟩ | ⟨v, hh, ht, hi⟩ | ⟨v, text, ae, hh, ht, hb, hi⟩ |
    ⟨v, text, token, hh, ht, hb, hi⟩
  · simp [hh, hi]
  · simp [hi, hh, (Http.headerText?_eq_none_iff v).mp ht]
  · have hbad : ¬∃ b ∈ v, b ≠ 0x09 ∧ (b < 0x20 ∨ 0x7F ≤ b) := by
      rw [← Http.headerText?_eq_none_iff, ht]
      simp
    simp [hi, hh, hbad, ht, hb]
  · have hbad : ¬∃ b ∈ v, b ≠ 0x09 ∧ (b < 0x20 ∨ 0x7F ≤ b) := by
      rw [← Http.headerText?_eq_none_iff, ht]
      simp
    rw [hi, hh, verdict_eq_error_iff]
    simp [hbad, ht, hb]

/-- **A refused token** is a bearer token read from the header that does not verify, refused
for the verifier's reason. -/
theorem identify_eq_token_iff (te : TokenError) :
    s.identify now req = .error (.unauthorized (.token te)) ↔
      ∃ v text token, req.header? "authorization" = some v ∧ Http.headerText? v = some text ∧
        extractBearer (some text) = .ok token ∧ s.directory.tokens.verifyAt token now = .error te := by
  rcases identify_cases s now req with ⟨hh, hi⟩ | ⟨v, hh, ht, hi⟩ | ⟨v, text, ae, hh, ht, hb, hi⟩ |
    ⟨v, text, token, hh, ht, hb, hi⟩
  · simp [hh, hi]
  · simp [hi, hh, ht]
  · -- the scheme refuses only as missing or malformed, never for a token
    rw [hi]
    constructor
    · intro h
      have hae : ae = .token te := by injection h with h; injection h
      rcases extractBearer_error hb with h | h <;> (rw [hae] at h; cases h)
    · rintro ⟨v', text', token, hv', ht', hb', -⟩
      rw [hh, Option.some.injEq] at hv'
      subst hv'
      rw [ht, Option.some.injEq] at ht'
      subst ht'
      rw [hb] at hb'
      cases hb'
  · rw [hi, verdict_eq_error_iff]
    simp [hh, ht, hb]

/-- **An admitted caller** is the identity of a bearer token read from the header that
verifies. -/
theorem identify_eq_ok_iff (id : String) :
    s.identify now req = .ok id ↔
      ∃ v text token c, req.header? "authorization" = some v ∧ Http.headerText? v = some text ∧
        extractBearer (some text) = .ok token ∧ s.directory.tokens.verifyAt token now = .ok c ∧
        id = c.identity := by
  rcases identify_cases s now req with ⟨hh, hi⟩ | ⟨v, hh, ht, hi⟩ | ⟨v, text, ae, hh, ht, hb, hi⟩ |
    ⟨v, text, token, hh, ht, hb, hi⟩
  · simp [hh, hi]
  · simp [hi, hh, ht]
  · simp [hi, hh, ht, hb]
  · rw [hi, verdict_eq_ok_iff]
    simp [hh, ht, hb]

/-! ## Answers at a gated endpoint -/

/-- **At a gated endpoint the gate comes first**: a refusal is the whole answer and leaves the
service as it was; an admitted caller is served by the handler as the verified identity. -/
theorem respond_gated {e : Endpoint} {a : Action} (hroute : Endpoint.ofPath? req.route = some e)
    (hgated : e.isGated = true) (haction : e.action? (Method.ofName req.method) = some a) :
    s.respond now req =
      match s.identify now req with
      | .error err =>
        (finishAt (Method.ofName req.method) none (withGuards (s.withCors err.response)), s)
      | .ok actor =>
        match s.perform now actor req a with
        | .ok (r, s') => (finishAt (Method.ofName req.method) none (withGuards (s.withCors r)), s')
        | .error err =>
          (finishAt (Method.ofName req.method) none (withGuards (s.withCors err.response)), s) := by
  -- an `OPTIONS` request is answered by no action, so it is not this one
  have hm : (Method.ofName req.method == .options) = false := by
    cases hname : Method.ofName req.method <;> simp_all [Endpoint.action?]
  unfold respond
  rw [hroute]
  simp only [hm, haction, Bool.false_eq_true, if_false]
  unfold serve
  rw [if_pos hgated]
  cases s.identify now req with
  | error err => rfl
  | ok actor =>
    simp only [bind, Except.bind]
    cases s.perform now actor req a <;> rfl

end Gate

/-- **The bearer gate decides every gated request.** At user information, sign-out and user
administration, with any method these answer, any headers, path and body, in any state: no
`Authorization` value or an empty one is a missing header; a value with an octet that is
neither a tab nor visible ASCII, or that the bearer scheme refuses, is malformed; a bearer token
that does not verify is refused for the verifier's reason; otherwise the caller is the verified
identity. Every refusal is answered 401 with its code and message and changes nothing, whatever
the path segment or the body; only an admitted caller reaches the handler, as that identity. -/
theorem respond_gated_route (s : Service) (now : Int) (req : Http.Request) {e : Endpoint}
    {a : Action} (hroute : Endpoint.ofPath? req.route = some e) (hgated : e.isGated = true)
    (haction : e.action? (Method.ofName req.method) = some a) :
    (s.identify now req = .error (.unauthorized .missingHeader) ↔
      req.header? "authorization" = none ∨ req.header? "authorization" = some []) ∧
    (s.identify now req = .error (.unauthorized .malformedHeader) ↔
      ∃ v, req.header? "authorization" = some v ∧
        ((∃ b ∈ v, b ≠ 0x09 ∧ (b < 0x20 ∨ 0x7F ≤ b)) ∨
          ∃ text, Http.headerText? v = some text ∧
            extractBearer (some text) = .error .malformedHeader)) ∧
    (∀ te, s.identify now req = .error (.unauthorized (.token te)) ↔
      ∃ v text token, req.header? "authorization" = some v ∧ Http.headerText? v = some text ∧
        extractBearer (some text) = .ok token ∧ s.directory.tokens.verifyAt token now = .error te) ∧
    (∀ id, s.identify now req = .ok id ↔
      ∃ v text token c, req.header? "authorization" = some v ∧ Http.headerText? v = some text ∧
        extractBearer (some text) = .ok token ∧ s.directory.tokens.verifyAt token now = .ok c ∧
        id = c.identity) ∧
    ((∃ ae, s.identify now req = .error (.unauthorized ae)) ∨ ∃ id, s.identify now req = .ok id) ∧
    (∀ ae, s.identify now req = .error (.unauthorized ae) →
      s.respond now req =
        (finishAt (Method.ofName req.method) none (withGuards (s.withCors
          (.json 401 (AppError.body (ErrorCode.ofAuth ae) (some (AppError.authMessage ae)))))), s)) ∧
    (∀ id, s.identify now req = .ok id →
      s.respond now req =
        match s.perform now id req a with
        | .ok (r, s') => (finishAt (Method.ofName req.method) none (withGuards (s.withCors r)), s')
        | .error err =>
          (finishAt (Method.ofName req.method) none (withGuards (s.withCors err.response)), s)) := by
  refine ⟨identify_eq_missing_iff s now req, identify_eq_malformed_iff s now req,
    identify_eq_token_iff s now req, identify_eq_ok_iff s now req, identify_error_or_ok s now req,
    fun ae hae => ?_, fun id hid => ?_⟩
  · rw [respond_gated s now req hroute hgated haction, hae]
    rfl
  · rw [respond_gated s now req hroute hgated haction, hid]

/-- A request to list the users with no `Authorization` header is answered 401
`MISSING_AUTHORIZATION` and changes nothing. -/
theorem respond_gated_route_no_header :
    Endpoint.ofPath? (⟨"GET", "/api/v1/users", [], []⟩ : Http.Request).route = some .users ∧
    Endpoint.users.isGated = true ∧
    Endpoint.users.action? (Method.ofName "GET") = some .listUsers ∧
    Service.respond ⟨⟨.offline, 4, ⟨⟨[0x6B]⟩, ⟨⟨[0x6B]⟩, TokenPolicy.default⟩⟩, 0⟩,
        "http://localhost:1234"⟩ 0 ⟨"GET", "/api/v1/users", [], []⟩ =
      (finishAt .get none (withGuards (Service.withCors
          ⟨⟨.offline, 4, ⟨⟨[0x6B]⟩, ⟨⟨[0x6B]⟩, TokenPolicy.default⟩⟩, 0⟩, "http://localhost:1234"⟩
          (.json 401 (AppError.body .missingAuthorization (some "Authorization header is missing"))))),
        ⟨⟨.offline, 4, ⟨⟨[0x6B]⟩, ⟨⟨[0x6B]⟩, TokenPolicy.default⟩⟩, 0⟩, "http://localhost:1234"⟩) := by
  have hroute : Endpoint.ofPath? (⟨"GET", "/api/v1/users", [], []⟩ : Http.Request).route =
      some .users := by decide
  have hgated : Endpoint.users.isGated = true := rfl
  have haction : Endpoint.users.action? (Method.ofName "GET") = some .listUsers := rfl
  refine ⟨hroute, hgated, haction, ?_⟩
  have hgate := respond_gated_route ⟨⟨.offline, 4, ⟨⟨[0x6B]⟩, ⟨⟨[0x6B]⟩, TokenPolicy.default⟩⟩, 0⟩,
    "http://localhost:1234"⟩ 0 ⟨"GET", "/api/v1/users", [], []⟩ hroute hgated haction
  exact hgate.2.2.2.2.2.1 .missingHeader (hgate.1.mpr (.inl rfl))

end Api.Service

end Backoffice
