import Backoffice.Proofs.Refresh
import Backoffice.Proofs.BearerGate

/-! # Tokens outlive their users

A token carries everything the service checks: the gate and the refresh endpoint read the key
and the clock, never the user store. So deleting a user revokes nothing, and a refresh token,
exchanged before it expires, gives a new one whose window starts at the exchange.

* **`Service.withStore`** — the same service over another user store.
* **`identify_withStore`**, **`respond_refreshToken_withStore`** — the gate's verdict and the
  refresh endpoint's answer are the same over every store.
* **`refreshAt_exchange`** — a token valid through its claims is exchanged, at a second before
  their expiry, for a pair valid through the windows of the policy from that second.
* **`RenewsTo`** — a chain of exchanges, each at a second no earlier than the one before and
  with the refresh token just obtained, ending with an access token accepted at a given second.
* **`renewsTo_of_validThrough`** — with a refresh window of two seconds or more, such a chain
  reaches every later second up to the end of the year 9999.
* **`gate_and_refresh_ignore_store`** — all of it for a service over any two stores. -/

namespace Backoffice

namespace Api.Service

/-- **The same service over another user store.** -/
def withStore (s : Service) (R : UserStore) : Service :=
  s.withDirectory { s.directory with store := R }

section Store

variable (s : Service) (R : UserStore) (now : Int) (req : Http.Request)

/-- The gate reads the tokens, not the store. -/
theorem identify_withStore : (s.withStore R).identify now req = s.identify now req := rfl

/-- A refresh through the API answers alike over every store, and keeps the store it has. -/
theorem perform_refresh_withStore (actor : String) :
    (s.withStore R).perform now actor req .refresh =
      (s.perform now actor req .refresh).map fun answer => (answer.1, s.withStore R) := by
  -- the refresh reads the tokens alone, which another store leaves as they are
  have hd : (s.withStore R).directory.refresh = s.directory.refresh := rfl
  simp only [perform, hd, bind, Except.bind]
  cases (readRefresh req).mapError BodyRejection.toAppError with
  | error e => rfl
  | ok body =>
    simp only
    split
    · rfl
    · cases s.directory.refresh body.refreshToken now <;> rfl

/-- **The refresh endpoint answers alike over every store.** -/
theorem respond_refreshToken_withStore (h : Endpoint.ofPath? req.route = some .refreshToken) :
    ((s.withStore R).respond now req).1 = (s.respond now req).1 := by
  unfold respond
  rw [h]
  simp only
  split
  · rfl
  · cases ha : Endpoint.refreshToken.action? (Method.ofName req.method) with
    | some a =>
      obtain rfl := action?_refreshToken ha
      simp only [serve, Endpoint.isGated, Bool.false_eq_true, ↓reduceIte, bind, Except.bind,
        perform_refresh_withStore]
      cases s.perform now "" req .refresh <;> rfl
    | none => rfl

/-- **A verified token opens every gated endpoint over every store**: the handler runs as the
token's identity, whether or not the store holds a user of that name. -/
theorem respond_gated_withStore {e : Endpoint} {a : Action} {v : List UInt8}
    {text token : String} {c : Claims} (hroute : Endpoint.ofPath? req.route = some e)
    (hgated : e.isGated = true) (haction : e.action? (Method.ofName req.method) = some a)
    (hh : req.header? "authorization" = some v) (ht : Http.headerText? v = some text)
    (hb : extractBearer (some text) = .ok token)
    (hv : s.directory.tokens.verifyAt token now = .ok c) :
    (s.withStore R).respond now req =
      match (s.withStore R).perform now c.identity req a with
      | .ok (r, s') =>
        (finishAt (Method.ofName req.method) none (withGuards ((s.withStore R).withCors r)), s')
      | .error err =>
        (finishAt (Method.ofName req.method) none
          (withGuards ((s.withStore R).withCors err.response)), s.withStore R) := by
  have hid : (s.withStore R).identify now req = .ok c.identity :=
    (identify_eq_ok_iff (s.withStore R) now req c.identity).mpr ⟨v, text, token, c, hh, ht, hb, hv, rfl⟩
  rw [respond_gated (s.withStore R) now req hroute hgated haction]
  split
  · rename_i heq
    rw [hid] at heq
    cases heq
  · rename_i actor heq
    obtain rfl : c.identity = actor := Except.ok.inj (hid.symm.trans heq)
    -- the two matches on the handler's answer are separate auxiliary definitions
    cases (s.withStore R).perform now c.identity req a <;> rfl

end Store

end Api.Service

/-! ## Exchanging a refresh token, again and again -/

/-- **Access renewed up to a second**: from a token in hand at second `t`, a chain of
refreshes, each at a second no earlier than the one before and with the refresh token just
obtained, whose last refresh, at `B`, gives an access token accepted at `B`. -/
inductive RenewsTo (v : SigningKey) (i : TokenIssuer) : String → Int → Int → Prop where
  /-- the token in hand is exchanged at `B` itself -/
  | last {X : String} {t B : Int} {pair : TokenPair} {c : Claims} :
      t ≤ B → refreshAt v i X B = .ok pair → v.verifyAt pair.access B = .ok c → RenewsTo v i X t B
  /-- the token in hand is exchanged at `t'`, and the chain goes on from its refresh token -/
  | step {X : String} {t t' B : Int} {pair : TokenPair} :
      t ≤ t' → refreshAt v i X t' = .ok pair → RenewsTo v i pair.refresh t' B → RenewsTo v i X t B

section Renewal

variable (k : SigningKey) {issuer audience : String} {accessTtl refreshTtl : Duration}
  {P : TokenPolicy} (hP : TokenPolicy.make issuer audience accessTtl refreshTtl = .ok P)
include hP

/-- **A valid token is exchanged for a fresh pair**: at a second of the years -9999 to 9999
before the expiry of its claims, the pair is valid through the policy's windows from that
second, for the same identity. -/
theorem refreshAt_exchange {X : String} {c : Claims} (hX : k.ValidThrough X c) {t : Int}
    (ht : t < c.expiresAt) (hlo : -377705116800 ≤ t) (hhi : t ≤ 253402300799) :
    ∃ pair, refreshAt k ⟨k, P⟩ X t = .ok pair ∧
      k.ValidThrough pair.access
        (Claims.forIdentity c.identity P.issuer P.audience t (t + P.accessTtl.wholeSeconds)) ∧
      k.ValidThrough pair.refresh
        (Claims.forIdentity c.identity P.issuer P.audience t (t + P.refreshTtl.wholeSeconds)) := by
  have hid : c.identity ≠ "" := SigningKey.identity_ne_of_verifyAt (by rw [hX t, if_pos ht])
  have hissue := TokenIssuer.issueAt_of_ne_empty ⟨k, P⟩ hid t
  refine ⟨_, ?_, TokenIssuer.validThrough_issueAt k hP hlo hhi hissue⟩
  rw [refreshAt_of_validThrough _ hX ht, hissue]
  rfl

/-- A token still valid at `B` is exchanged at `B` itself. -/
theorem renewsTo_last {X : String} {c : Claims} (hX : k.ValidThrough X c) {t B : Int}
    (htB : t ≤ B) (hB : B < c.expiresAt) (hlo : -377705116800 ≤ B) (hhi : B ≤ 253402300799) :
    RenewsTo k ⟨k, P⟩ X t B := by
  obtain ⟨pair, hr, hA, -⟩ := refreshAt_exchange k hP hX hB hlo hhi
  obtain ⟨⟨ha, -⟩, -⟩ := TokenPolicy.wholeSeconds_bounds_of_make hP
  have haccess : k.verifyAt pair.access B =
      .ok (Claims.forIdentity c.identity P.issuer P.audience B (B + P.accessTtl.wholeSeconds)) := by
    rw [hA B, if_pos (by simp only [Claims.forIdentity]; omega)]
  exact .last htB hr haccess

/-- **Access is renewed without bound**: with a refresh window of at least two seconds, a token
valid through its claims at `t` renews to every later second up to the end of the year 9999.
Each exchange at the last second before the token in hand expires pushes the expiry on by the
window less one second. -/
theorem renewsTo_of_validThrough (hr : 2 ≤ P.refreshTtl.wholeSeconds) {B : Int}
    (hhi : B ≤ 253402300799) {X : String} {c : Claims} (hX : k.ValidThrough X c) {t : Int}
    (ht : t < c.expiresAt) (hlo : -377705116800 ≤ t) (htB : t ≤ B) : RenewsTo k ⟨k, P⟩ X t B := by
  -- induction on how far `B` lies beyond the expiry of the token in hand
  obtain ⟨n, hn⟩ : ∃ n : Nat, B + 1 - c.expiresAt ≤ n :=
    ⟨(B + 1 - c.expiresAt).toNat, Int.self_le_toNat _⟩
  induction n generalizing X c t with
  | zero => exact renewsTo_last k hP hX htB (by omega) (by omega) hhi
  | succ n ih =>
    by_cases hB : B < c.expiresAt
    · exact renewsTo_last k hP hX htB hB (by omega) hhi
    -- exchange at the last second of the token in hand; the new refresh token lasts longer
    have ht' : c.expiresAt - 1 < c.expiresAt := by omega
    obtain ⟨pair, hrefresh, -, hR⟩ :=
      refreshAt_exchange k hP hX ht' (by omega) (by omega)
    refine .step (by omega) hrefresh (ih hR ?_ (by omega) (by omega) ?_)
    · simp only [Claims.forIdentity]
      omega
    · simp only [Claims.forIdentity]
      omega

end Renewal

/-- **Token validity does not depend on the user store.** Over any store the gate gives the same
verdict with the same identity, and the refresh endpoint the same answer; a verified token opens
every gated endpoint as its identity, whether or not that user exists. For a service whose key
both verifies and signs under a policy that `make` accepts, a token valid through its claims is
exchanged, at any second before their expiry, for a pair whose refresh token lasts the refresh
window from then; with a window of two seconds or more, access is renewed to every later
second up to the end of the year 9999. -/
theorem gate_and_refresh_ignore_store (s : Api.Service) (R : UserStore) (now : Int)
    (req : Http.Request) :
    (s.withStore R).identify now req = s.identify now req ∧
    (Api.Endpoint.ofPath? req.route = some .refreshToken →
      ((s.withStore R).respond now req).1 = (s.respond now req).1) ∧
    (∀ {e : Api.Endpoint} {a : Api.Action} (v : List UInt8) (text token : String) (c : Claims),
      Api.Endpoint.ofPath? req.route = some e → e.isGated = true →
      e.action? (Api.Method.ofName req.method) = some a →
      req.header? "authorization" = some v → Http.headerText? v = some text →
      extractBearer (some text) = .ok token → s.directory.tokens.verifyAt token now = .ok c →
      (s.withStore R).respond now req =
        match (s.withStore R).perform now c.identity req a with
        | .ok (r, s') =>
          (Api.Service.finishAt (Api.Method.ofName req.method) none
            (Api.Service.withGuards ((s.withStore R).withCors r)), s')
        | .error err =>
          (Api.Service.finishAt (Api.Method.ofName req.method) none
            (Api.Service.withGuards ((s.withStore R).withCors err.response)), s.withStore R)) ∧
    (∀ (k : SigningKey) (issuer audience : String) (accessTtl refreshTtl : Duration)
      (P : TokenPolicy), s.directory.tokens = ⟨k, ⟨k, P⟩⟩ →
      TokenPolicy.make issuer audience accessTtl refreshTtl = .ok P →
      (∀ (X : String) (c : Claims) (t : Int), k.ValidThrough X c → t < c.expiresAt →
        -377705116800 ≤ t → t ≤ 253402300799 →
        ∃ pair, (s.withStore R).directory.refresh X t = .ok pair ∧
          k.ValidThrough pair.refresh
            (Claims.forIdentity c.identity P.issuer P.audience t (t + P.refreshTtl.wholeSeconds))) ∧
      (2 ≤ P.refreshTtl.wholeSeconds → ∀ (X : String) (c : Claims) (t B : Int),
        k.ValidThrough X c → t < c.expiresAt → -377705116800 ≤ t → t ≤ B →
        B ≤ 253402300799 → RenewsTo k ⟨k, P⟩ X t B)) := by
  refine ⟨Api.Service.identify_withStore s R now req,
    Api.Service.respond_refreshToken_withStore s R now req,
    fun v text token c hroute hgated haction hh ht hb hv =>
      Api.Service.respond_gated_withStore s R now req hroute hgated haction hh ht hb hv,
    fun k issuer audience accessTtl refreshTtl P hk hP => ⟨?_, ?_⟩⟩
  · intro X c t hX ht hlo hhi
    obtain ⟨pair, hrefresh, -, hR⟩ := refreshAt_exchange k hP hX ht hlo hhi
    refine ⟨pair, ?_, hR⟩
    -- the service's refresh is the key's, whatever the store
    have htokens : (s.withStore R).directory.tokens = ⟨k, ⟨k, P⟩⟩ := hk
    simp [Directory.refresh, htokens, hrefresh, Except.mapError]
  · intro hr X c t B hX ht hlo htB hhi
    exact renewsTo_of_validThrough k hP hr hhi hX ht hlo htB

/-- Alice's refresh token, issued at second 1700000000 under the default policy, renews her
access to the last second of the year 9999 at a service signing with the same key. -/
theorem gate_and_refresh_ignore_store_renews_alice :
    TokenPolicy.make TokenPolicy.defaultIssuer TokenPolicy.defaultAudience
        (Duration.ofSeconds (365 * 86400)) (Duration.ofSeconds (730 * 86400)) =
      .ok TokenPolicy.default ∧
    2 ≤ TokenPolicy.default.refreshTtl.wholeSeconds ∧
    RenewsTo ⟨[0x6B]⟩ ⟨⟨[0x6B]⟩, TokenPolicy.default⟩
      (SigningKey.sign ⟨[0x6B]⟩ (Claims.forIdentity "alice" TokenPolicy.defaultIssuer
        TokenPolicy.defaultAudience 1700000000 (1700000000 + 730 * 86400)))
      1700000000 253402300799 := by
  have hP : TokenPolicy.make TokenPolicy.defaultIssuer TokenPolicy.defaultAudience
      (Duration.ofSeconds (365 * 86400)) (Duration.ofSeconds (730 * 86400)) =
        .ok TokenPolicy.default := rfl
  have hr : 2 ≤ TokenPolicy.default.refreshTtl.wholeSeconds := by decide
  have hissue := TokenIssuer.issueAt_of_ne_empty ⟨⟨[0x6B]⟩, TokenPolicy.default⟩
    (show "alice" ≠ "" by decide) 1700000000
  have hX := (TokenIssuer.validThrough_issueAt ⟨[0x6B]⟩ hP (by decide) (by decide) hissue).2
  refine ⟨hP, hr, ?_⟩
  exact ((gate_and_refresh_ignore_store ⟨⟨.offline, 4, ⟨⟨[0x6B]⟩, ⟨⟨[0x6B]⟩, TokenPolicy.default⟩⟩,
      0⟩, "http://localhost:1234"⟩ .offline 0 ⟨"GET", "/", [], []⟩).2.2.2 ⟨[0x6B]⟩ _ _ _ _
    TokenPolicy.default rfl hP).2 hr _ _ 1700000000 253402300799 hX (by decide) (by decide)
    (by decide) (by decide)

end Backoffice
