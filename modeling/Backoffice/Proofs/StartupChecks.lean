import Backoffice.App.Startup
import Backoffice.Proofs.ClaimSet

/-! # The startup checks of the token settings

Starting the service reads three token settings from its environment: the access window in
seconds, the refresh window in days and the signing secret. They are refused in a fixed order,
and before the store is first reached.

* **`TokenPolicy.make_ofSeconds`** — a policy whose windows are whole seconds is checked on the
  seconds themselves.
* **`Text.readSigned_toString`** — every signed 64-bit number is read back from its decimal
  text, so each such number can be a window setting.
* **`tokenSettingsFault`** — the first failing check of the three settings, in the order startup
  makes them: each window positive, then each within a hundred years of 365 days (36500 days),
  then a secret with an octet that is not ASCII blank.
* **`AppConfig.OthersRead`** — the other variables read: the database locator is set, and the
  pool size, listening address, allowed origin and hashing cost read when they are set.
* **`AppConfig.ofEnvironment_windows`** — the settings are read unless the refresh window's
  seconds overflow signed 64 bits, which is an error and not an abort.
* **`startup_checks_windows_then_secret`** — all together: reading fails exactly on that
  overflow, the token service refuses the first failing check, and startup stops at that fault
  on every host, the database never reached. -/

namespace Backoffice

/-! ## Windows of whole seconds -/

namespace Duration

@[simp] theorem wholeSeconds_ofSeconds (s : Int) : (ofSeconds s).wholeSeconds = s :=
  Int.mul_tdiv_cancel s (by decide)

theorem ofSeconds_nanos_lt_iff (s t : Int) :
    (ofSeconds s).nanos < (ofSeconds t).nanos ↔ s < t := by
  simp only [ofSeconds, nanosPerSecond]
  omega

end Duration

namespace TokenPolicy

/-- **A policy of whole-second windows** is checked on the seconds: each positive, then each at
most a hundred years of 365 days. -/
theorem make_ofSeconds (issuer audience : String) (a r : Int) :
    make issuer audience (.ofSeconds a) (.ofSeconds r) =
      if a ≤ 0 then .error (.nonPositiveTtl .access)
      else if r ≤ 0 then .error (.nonPositiveTtl .refresh)
      else if 3153600000 < a then .error (.excessiveTtl .access)
      else if 3153600000 < r then .error (.excessiveTtl .refresh)
      else .ok ⟨issuer, audience, .ofSeconds a, .ofSeconds r⟩ := by
  simp only [make, Duration.wholeSeconds_ofSeconds, gt_iff_lt, maxTtl,
    Duration.ofSeconds_nanos_lt_iff]
  rfl

end TokenPolicy

/-- A token service is refused only for a blank secret; the verifier and the signer share it. -/
theorem TokenService.make_eq (secret : List UInt8) (policy : TokenPolicy) :
    TokenService.make secret policy =
      if secret.all isAsciiBlank then .error .emptySecret
      else .ok ⟨⟨secret⟩, ⟨⟨secret⟩, policy⟩⟩ := by
  unfold TokenService.make SigningKey.make
  split <;> rfl

/-! ## Decimal text of signed 64-bit numbers -/

namespace Text

theorem digitOf?_of_isDigit {c : Char} (h : c.isDigit = true) :
    digitOf? c = some (c.toNat - '0'.toNat) := by
  simp only [Char.isDigit, Bool.and_eq_true, decide_eq_true_eq] at h
  rw [digitOf?, if_pos (show '0' ≤ c ∧ c ≤ '9' from ⟨h.1, h.2⟩)]

theorem le_ofDigitChars (cs : List Char) (acc : Nat) : acc ≤ Nat.ofDigitChars 10 cs acc := by
  induction cs generalizing acc with
  | nil => simp [Nat.ofDigitChars_eq_foldl]
  | cons c cs ih =>
    have := ih (10 * acc + (c.toNat - '0'.toNat))
    simp only [Nat.ofDigitChars_eq_foldl, List.foldl_cons] at this ⊢
    omega

/-- **A run of digits is read as the number it spells** when that number is within the limit:
each value on the way is at most the last one, so no step overflows. -/
theorem accumulate_digits (limit : Nat) (overflow : IntegerError) {cs : List Char}
    (hcs : ∀ c ∈ cs, c.isDigit = true) (acc : Nat) (h : Nat.ofDigitChars 10 cs acc ≤ limit) :
    accumulate limit overflow acc cs = .ok (Nat.ofDigitChars 10 cs acc) := by
  induction cs generalizing acc with
  | nil => simp [accumulate, Nat.ofDigitChars_eq_foldl]
  | cons c cs ih =>
    have hc := digitOf?_of_isDigit (hcs c (by simp))
    have hrest : ∀ x ∈ cs, x.isDigit = true := fun x hx => hcs x (by simp [hx])
    have hstep : Nat.ofDigitChars 10 (c :: cs) acc =
        Nat.ofDigitChars 10 cs (acc * 10 + (c.toNat - '0'.toNat)) := by
      simp only [Nat.ofDigitChars_eq_foldl, List.foldl_cons, Nat.mul_comm]
    rw [hstep] at h ⊢
    have hnext := le_ofDigitChars cs (acc * 10 + (c.toNat - '0'.toNat))
    simp only [accumulate, hc]
    rw [if_neg (by omega)]
    exact ih hrest _ h

/-- The decimal digits of a number within the limit are read as that number. -/
theorem accumulate_toDigits (limit : Nat) (overflow : IntegerError) {n : Nat} (h : n ≤ limit) :
    accumulate limit overflow 0 (Nat.toDigits 10 n) = .ok n := by
  have hdigits : ∀ c ∈ Nat.toDigits 10 n, c.isDigit = true :=
    fun c hc => Nat.isDigit_of_mem_toDigits (by decide) (by decide) hc
  have hval := accumulate_digits limit overflow hdigits 0 (by rwa [Nat.ofDigitChars_ten_toDigits])
  rwa [Nat.ofDigitChars_ten_toDigits] at hval

/-- **Every signed 64-bit number is read back from its decimal text.** -/
theorem readSigned_toString {a : Int} (h : InInt64 a) : readSigned 64 (toString a) = .ok a := by
  have hmin : (Nat.pow 2 63 : Int) = 9223372036854775808 := rfl
  have hmax : (JsonNumber.int64Max : Int) = 9223372036854775807 := rfl
  have hpow : Nat.pow 2 (64 - 1) = 9223372036854775808 := rfl
  unfold InInt64 at h
  cases a with
  | ofNat n =>
    rw [Int.ofNat_eq_natCast] at h ⊢
    obtain ⟨d, ds, hds⟩ : ∃ d ds, Nat.toDigits 10 n = d :: ds :=
      List.exists_cons_of_ne_nil Nat.toDigits_ne_nil
    have hd : d.isDigit = true :=
      Nat.isDigit_of_mem_toDigits (by decide) (by decide) (hds ▸ List.mem_cons_self)
    have hplus : d ≠ '+' := fun he => absurd (he ▸ hd) (by decide)
    have hminus : d ≠ '-' := fun he => absurd (he ▸ hd) (by decide)
    have hval := accumulate_toDigits (Nat.pow 2 (64 - 1) - 1) .tooLarge (n := n) (by omega)
    show readSigned 64 (toString n) = _
    rw [Nat.toString_eq_ofList_toDigits, readSigned, String.toList_ofList]
    rw [hds] at hval ⊢
    -- the text starts with a digit, so only the last pattern, a run of digits, matches
    split
    next heq => cases heq
    next heq => exact absurd (List.cons.inj heq).1 hplus
    next heq => exact absurd (List.cons.inj heq).1 hminus
    next heq => exact absurd (List.cons.inj heq).1 hminus
    next heq => exact absurd (List.cons.inj heq).1 hplus
    next =>
      rw [hval]
      rfl
  | negSucc m =>
    rw [Int.negSucc_eq] at h ⊢
    have hval := accumulate_toDigits (Nat.pow 2 (64 - 1)) .tooSmall (n := m + 1) (by omega)
    have htext : ("-" ++ toString (m + 1)).toList = '-' :: Nat.toDigits 10 (m + 1) := by simp
    show readSigned 64 ("-" ++ toString (m + 1)) = _
    rw [readSigned, htext]
    -- a minus sign before a run of digits, which is never empty
    split
    next heq => cases heq
    next heq => cases heq
    next heq => exact absurd (List.cons.inj heq).2 Nat.toDigits_ne_nil
    next heq =>
      rw [← (List.cons.inj heq).2, hval]
      rfl
    next heq => cases heq
    next _ hminus _ => exact absurd rfl (hminus _)

end Text

/-! ## The token settings -/

/-- **The first failing check of the token settings**, for an access window of `a` seconds, a
refresh window of `d` days and the secret `s`: the access window, then the refresh window, must be
positive; then each must be at most a hundred years of 365 days; then some octet of the secret
must not be ASCII blank. -/
def tokenSettingsFault (a d : Int) (s : String) : Option ConfigError :=
  if a ≤ 0 then some (.nonPositiveTtl .access)
  else if d ≤ 0 then some (.nonPositiveTtl .refresh)
  else if 3153600000 < a then some (.excessiveTtl .access)
  else if 36500 < d then some (.excessiveTtl .refresh)
  else if s.toUTF8.toList.all isAsciiBlank then some .emptySecret
  else none

/-- A blank secret is not reported while a window is refused. -/
example : tokenSettingsFault 0 0 " \t" = some (.nonPositiveTtl .access) := by decide

example : tokenSettingsFault 3600 30 " \t" = some .emptySecret := by decide +kernel

namespace AppConfig

/-- **The token service of settings with whole-second windows** refuses exactly the first failing
check of the token settings, the refresh window being given in days. -/
theorem tokenService_eq_error_iff {c : AppConfig} {s : String} {a d : Int} (hs : c.secret = s)
    (ha : c.accessTtl = .ofSeconds a) (hd : c.refreshTtl = .ofSeconds (d * 86400))
    (e : ConfigError) : c.tokenService = .error e ↔ tokenSettingsFault a d s = some e := by
  -- a day count is checked through its seconds: 36500 days are the hundred years
  have hpos : d * 86400 ≤ 0 ↔ d ≤ 0 := by omega
  have hmax : 3153600000 < d * 86400 ↔ 36500 < d := by omega
  rw [tokenService, tokenPolicy, ha, hd, hs, TokenPolicy.make_ofSeconds]
  simp only [hpos, hmax, tokenSettingsFault]
  split_ifs with h₁ h₂ h₃ h₄ h₅ <;>
    simp only [bind, Except.bind, TokenService.make_eq, Except.error.injEq, Option.some.injEq]
  · rw [if_pos h₅, Except.error.injEq]
  · rw [if_neg h₅]
    simp

/-! ## Reading the environment -/

/-- **A variable that reads with `parse` whenever it is set.** -/
def Reads {α : Type} (env : Environment) (name : String) (parse : String → Option α) : Prop :=
  ∀ v, env.lookup name = some v → (parse v).isSome

/-- **The variables other than the token settings read**: the database locator is set, and the
pool size, the listening address, the allowed origin (as a header value) and the hashing cost
read when they are set. Issuer and audience always read. -/
structure OthersRead (env : Environment) : Prop where
  databaseUrl : (env.lookup "DATABASE_URL").isSome
  maxConnections : Reads env "DATABASE_MAX_CONNECTIONS" fun s => (Text.readUnsigned 32 s).toOption
  bindAddress : Reads env "BIND_ADDR" Net.SocketAddress.parse?
  corsOrigin : ∀ v, env.lookup "CORS_ORIGIN" = some v → v.toList.all isHeaderValueChar
  bcryptCost : Reads env "BCRYPT_COST" fun s => (Text.readUnsigned 32 s).toOption

/-- **The host can create the log file** the environment names, when it names one that is not
blank. -/
def LogFileCreatable (host : Host) (env : Environment) : Prop :=
  ∀ p ∈ (env.lookup "LOG_FILE_PATH").filter (fun p => !(Text.trimWhiteSpace p).isEmpty),
    host.createFault? p = none

section Settings

variable {env : Environment}

theorem setting_of_reads {α : Type} {name : String} {parse : String → Option α}
    (h : Reads env name parse) (default : α) : ∃ x, setting env name default parse = .ok x := by
  unfold setting
  cases hl : env.lookup name with
  | none => exact ⟨default, rfl⟩
  | some v =>
    obtain ⟨x, hx⟩ := Option.isSome_iff_exists.mp (h v hl)
    exact ⟨x, by simp [hx]⟩

theorem setting_of_lookup {α : Type} {name v : String} {parse : String → Option α} {x : α}
    (hl : env.lookup name = some v) (hp : parse v = some x) (default : α) :
    setting env name default parse = .ok x := by
  simp [setting, hl, hp]

theorem setting_signed {name v : String} {x : Int} (hl : env.lookup name = some v)
    (hx : Text.readSigned 64 v = .ok x) (default : Int) :
    setting env name default (fun s => (Text.readSigned 64 s).toOption) = .ok x :=
  setting_of_lookup hl (by simp [hx, Except.toOption]) default

theorem setting_some (name default : String) :
    setting env name default some = .ok ((env.lookup name).getD default) := by
  unfold setting
  cases env.lookup name <;> rfl

theorem reads_of_lookup_none {α : Type} {name : String} {parse : String → Option α}
    (h : env.lookup name = none) : Reads env name parse := by
  intro v hv
  rw [h] at hv
  cases hv

/-- The allowed origin that is read, a set one or the default, is a header value. -/
theorem corsOrigin_of_othersRead (h : OthersRead env) :
    ∃ o, setting env "CORS_ORIGIN" "http://localhost:1234" some = .ok o ∧
      o.toList.all isHeaderValueChar := by
  rw [setting_some]
  cases hl : env.lookup "CORS_ORIGIN" with
  | none => exact ⟨_, rfl, by decide⟩
  | some v => exact ⟨v, rfl, h.corsOrigin v hl⟩

/-- The range test of the refresh seconds passes exactly the numbers within signed 64 bits. -/
theorem inInt64_iff_not_outOfRange (x : Int) :
    InInt64 x ↔ ¬(decide (x > int64Max) || decide (x < -int64Max - 1)) = true := by
  have hmin : (Nat.pow 2 63 : Int) = 9223372036854775808 := rfl
  have hmax : (JsonNumber.int64Max : Int) = 9223372036854775807 := rfl
  rw [Bool.or_eq_true, decide_eq_true_iff, decide_eq_true_iff]
  unfold InInt64 int64Max
  omega

/-- **The settings read from an environment** whose token settings read as `a` seconds, `d` days
and the secret `s`, the other variables reading too: an error (not an abort) when the refresh
window's seconds overflow signed 64 bits, and otherwise settings with those windows and secret,
and the log file named unless blank. -/
theorem ofEnvironment_windows {s ta td : String} {a d : Int}
    (hs : (env.lookup "JWT_SECRET").getD "" = s)
    (hta : env.lookup "ACCESS_TOKEN_TTL_SECS" = some ta) (ha : Text.readSigned 64 ta = .ok a)
    (htd : env.lookup "REFRESH_TOKEN_TTL_DAYS" = some td) (hd : Text.readSigned 64 td = .ok d)
    (ho : OthersRead env) :
    (¬InInt64 (d * 86400) → ofEnvironment env =
      .error (.error ("REFRESH_TOKEN_TTL_DAYS is out of range: " ++ toString d))) ∧
    (InInt64 (d * 86400) → ∃ c, ofEnvironment env = .ok c ∧ c.secret = s ∧
      c.accessTtl = .ofSeconds a ∧ c.refreshTtl = .ofSeconds (d * 86400) ∧
      c.logFile = (env.lookup "LOG_FILE_PATH").filter fun p => !(Text.trimWhiteSpace p).isEmpty) := by
  obtain ⟨url, hurl⟩ := Option.isSome_iff_exists.mp ho.databaseUrl
  obtain ⟨pool, hpool⟩ := setting_of_reads ho.maxConnections 5
  obtain ⟨addr, haddr⟩ := setting_of_reads ho.bindAddress Net.SocketAddress.localDefault
  obtain ⟨origin, horigin, hvalid⟩ := corsOrigin_of_othersRead ho
  obtain ⟨cost, hcost⟩ := setting_of_reads ho.bcryptCost 12
  have hA := setting_signed hta ha 31536000
  have hD := setting_signed htd hd 730
  -- every read succeeds, so only the range test of the refresh seconds is left
  simp only [ofEnvironment, hA, hD, setting_some, hurl, hpool, haddr, horigin, hvalid, hcost, hs,
    secondsPerDay, bind, Except.bind, pure, Except.pure, Bool.not_true, Bool.false_eq_true,
    if_false]
  constructor
  · intro h
    split
    · rfl
    · rename_i hin
      exact absurd ((inInt64_iff_not_outOfRange _).mpr hin) h
  · intro h
    split
    · rename_i hout
      exact absurd hout ((inInt64_iff_not_outOfRange _).mp h)
    · exact ⟨_, rfl, rfl, rfl, rfl, rfl⟩

end Settings

end AppConfig

/-! ## Startup -/

/-- **Startup stops at the token service's fault**, once the settings are read and the log file
(if any) is made: the database locator is never read and the store never reached. -/
theorem startup_of_tokenService_error {host : Host} {env : Environment} {c : AppConfig}
    {e : ConfigError} (hc : AppConfig.ofEnvironment env = .ok c)
    (hlog : ∀ p ∈ c.logFile, host.createFault? p = none) (he : c.tokenService = .error e) :
    startup host env = .error ("Invalid token configuration: " ++ e.message) := by
  unfold startup
  rw [hc]
  cases hl : c.logFile with
  | none => simp [hl, he]
  | some p => simp [hl, hlog p (by simp [hl]), he]

/-- **Startup refuses the token settings in a fixed order.** Take an environment whose access
window reads as `a` seconds and whose refresh window reads as `d` days (each a signed 64-bit
number, which its decimal text always reads as by `Text.readSigned_toString`), with the secret `s` (an absent one is empty), and whose other variables read. Reading
the settings fails, with an error and not an abort, exactly when `d` days of seconds overflow
signed 64 bits. Otherwise the token service refuses exactly the first failing check of
`tokenSettingsFault`: the access window, then the refresh window, not positive; the access
window, then the refresh window, above a hundred years; then a blank secret, so that a blank
secret is reported only when both windows are valid. On every host where the log file (if any)
can be made, startup then stops with that fault, before the database is reached. -/
theorem startup_checks_windows_then_secret (host : Host) {env : Environment} {s ta td : String}
    {a d : Int} (hs : (env.lookup "JWT_SECRET").getD "" = s)
    (hta : env.lookup "ACCESS_TOKEN_TTL_SECS" = some ta) (ha : Text.readSigned 64 ta = .ok a)
    (htd : env.lookup "REFRESH_TOKEN_TTL_DAYS" = some td) (hd : Text.readSigned 64 td = .ok d)
    (ho : AppConfig.OthersRead env) :
    (¬InInt64 (d * 86400) → AppConfig.ofEnvironment env =
      .error (.error ("REFRESH_TOKEN_TTL_DAYS is out of range: " ++ toString d))) ∧
    (InInt64 (d * 86400) → ∃ c, AppConfig.ofEnvironment env = .ok c ∧
      (∀ e, c.tokenService = .error e ↔ tokenSettingsFault a d s = some e) ∧
      ∀ e, tokenSettingsFault a d s = some e → AppConfig.LogFileCreatable host env →
        startup host env = .error ("Invalid token configuration: " ++ e.message)) := by
  obtain ⟨hout, hin⟩ := AppConfig.ofEnvironment_windows hs hta ha htd hd ho
  refine ⟨hout, fun hrange => ?_⟩
  obtain ⟨c, hc, hsecret, haccess, hrefresh, hlogFile⟩ := hin hrange
  have hverdict := AppConfig.tokenService_eq_error_iff hsecret haccess hrefresh
  refine ⟨c, hc, hverdict, fun e he hcreate => ?_⟩
  exact startup_of_tokenService_error hc (hlogFile ▸ hcreate) ((hverdict e).mpr he)

/-- A blank secret with windows of an hour and of thirty days, and no other variable set but the
database locator: the secret is the fault that startup reports. -/
theorem startup_reports_blank_secret :
    let env : Environment := [("JWT_SECRET", " \t"), ("ACCESS_TOKEN_TTL_SECS", "3600"),
      ("REFRESH_TOKEN_TTL_DAYS", "30"),
      ("DATABASE_URL", "postgres://flexio@localhost/flexio?host=/nonexistent")]
    (env.lookup "JWT_SECRET").getD "" = " \t" ∧
    env.lookup "ACCESS_TOKEN_TTL_SECS" = some "3600" ∧ Text.readSigned 64 "3600" = .ok 3600 ∧
    env.lookup "REFRESH_TOKEN_TTL_DAYS" = some "30" ∧ Text.readSigned 64 "30" = .ok 30 ∧
    AppConfig.OthersRead env ∧ AppConfig.LogFileCreatable Host.standard env ∧
    (¬InInt64 (30 * 86400) → AppConfig.ofEnvironment env =
      .error (.error ("REFRESH_TOKEN_TTL_DAYS is out of range: " ++ toString (30 : Int)))) ∧
    (InInt64 (30 * 86400) → ∃ c, AppConfig.ofEnvironment env = .ok c ∧
      (∀ e, c.tokenService = .error e ↔ tokenSettingsFault 3600 30 " \t" = some e) ∧
      ∀ e, tokenSettingsFault 3600 30 " \t" = some e →
        AppConfig.LogFileCreatable Host.standard env →
        startup Host.standard env = .error ("Invalid token configuration: " ++ e.message)) := by
  intro env
  have hunset : ∀ name ∈ ["DATABASE_MAX_CONNECTIONS", "BIND_ADDR", "CORS_ORIGIN", "BCRYPT_COST",
      "LOG_FILE_PATH"], env.lookup name = none := by decide
  have hothers : AppConfig.OthersRead env :=
    ⟨rfl, AppConfig.reads_of_lookup_none (hunset "DATABASE_MAX_CONNECTIONS" (by simp)),
      AppConfig.reads_of_lookup_none (hunset "BIND_ADDR" (by simp)),
      fun v hv => (by rw [hunset "CORS_ORIGIN" (by simp)] at hv; cases hv),
      AppConfig.reads_of_lookup_none (hunset "BCRYPT_COST" (by simp))⟩
  have hlog : AppConfig.LogFileCreatable Host.standard env := by
    intro p hp
    simp [hunset "LOG_FILE_PATH" (by simp)] at hp
  exact ⟨rfl, rfl, rfl, rfl, rfl, hothers, hlog,
    startup_checks_windows_then_secret Host.standard rfl rfl rfl rfl rfl hothers⟩

end Backoffice
