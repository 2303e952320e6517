import Mathlib
import Backoffice.Token.Compact
import Backoffice.Proofs.Base64Canonical
import Backoffice.Proofs.ClaimSchema

/-! # What verification accepts, and why it refuses

`SigningKey.verifyAt` reads a token in two stages. The first needs neither the key nor the
clock: it splits the token at its dots, decodes the header and the claims, and reads the
algorithm and the claim set (`SigningKey.readForm`). The second compares the algorithm, the
signature and the expiry, in this order, and then reads the claims.

* **`readForm_eq_ok_iff`** — the first stage succeeds exactly on the Base64url texts of a header
  that names an algorithm and of a JSON object, followed by a signature of URL-safe symbols.
  Base64 is read back only in its canonical form (`Base64.encode_of_decode`), so each part is
  the encoding of the octets it was read as.
* **`signingInput_eq_first_two_parts`** — the signature is checked over a cut of the token at
  an octet offset computed from the lengths of its first two parts; that offset is a character
  boundary, and the cut is the two parts joined by a dot.
* **`verifyAt_eq_ok_iff`** — acceptance is exactly the signed canonical form: the header and
  claims encoded, then the signature of the two encodings joined by a dot; the header read as
  naming `HS256`, the claims as an object whose `exp` is after `now`.
* **`verifyAt_verdicts`** — the order of the refusals, and what follows from it: `malformed`
  and `unsupportedAlgorithm` depend on neither key nor clock, `badSignature` not on the clock;
  a token accepted at some second is accepted with the same claims at every earlier one, and an
  expired one stays expired. -/

namespace Backoffice

namespace SigningKey

/-! ## Signatures and their symbols -/

/-- Every symbol of the URL-safe alphabet may appear in a signature, and none is a dot. -/
theorem url_symbols_safe :
    ∀ ch ∈ Base64.Alphabet.url.symbols, isUrlSymbol ch = true ∧ ch ≠ '.' := by
  intro ch hch
  have hall : Base64.Alphabet.url.symbols.all (fun ch => isUrlSymbol ch && ch != '.') = true := by
    decide
  simpa using List.all_eq_true.mp hall ch hch

/-- A value's symbol is a symbol of the alphabet, when its default `A` is one. -/
theorem symbol_mem {a : Base64.Alphabet} (hA : 'A' ∈ a.symbols) (v : Nat) :
    a.symbol v ∈ a.symbols := by
  by_cases hv : v < a.symbols.length
  · rw [Base64.Alphabet.symbol_eq_getElem hv]
    exact List.getElem_mem hv
  · simpa [Base64.Alphabet.symbol, List.getD_eq_getElem?_getD,
      List.getElem?_eq_none (Nat.le_of_not_lt hv)] using hA

/-- **Base64 text is made of the alphabet's symbols.** -/
theorem mem_encode {a : Base64.Alphabet} (hA : 'A' ∈ a.symbols) (bs : List UInt8) :
    ∀ ch ∈ (Base64.encode a bs).toList, ch ∈ a.symbols := by
  fun_induction Base64.encode a bs with
  | case1 => simp
  | case2 x n => simp [symbol_mem hA]
  | case3 x y n => simp [symbol_mem hA]
  | case4 x y z rest n ih =>
    intro ch hch
    rw [String.toList_append, String.toList_ofList] at hch
    rcases List.mem_append.mp hch with h | h
    · simp only [List.mem_cons, List.not_mem_nil, or_false] at h
      rcases h with rfl | rfl | rfl | rfl <;> exact symbol_mem hA _
    · exact ih ch h

/-- The characters of a Base64url text are URL-safe and none is a dot. -/
theorem b64_safe (bs : List UInt8) : ∀ ch ∈ (b64 bs).toList, isUrlSymbol ch = true ∧ ch ≠ '.' :=
  fun ch hch => url_symbols_safe ch (mem_encode (by decide) bs ch hch)

/-- A signature is made of URL-safe symbols. -/
theorem signatureOf_safe (k : SigningKey) (input : String) :
    (k.signatureOf input).toList.all isUrlSymbol = true :=
  List.all_eq_true.mpr fun ch hch => (b64_safe _ ch hch).1

/-- **Only the empty octet string has empty Base64 text.** -/
theorem b64_ne_empty {bs : List UInt8} (h : bs ≠ []) : b64 bs ≠ "" := by
  intro hempty
  have hround := Base64.decode_encode Base64.Alphabet.url_lawful bs
  have hnil : ("" : String).toUTF8.toList = [] := by rw [Octets.toUTF8_toList]; rfl
  rw [show Base64.encode .url bs = b64 bs from rfl, hempty, hnil] at hround
  exact h (Except.ok.inj (hround.symm.trans rfl))

/-! ## Parts -/

/-- **Three dot-free texts joined by dots** are the three parts of the token they make. -/
theorem parts_join {h c s : String} (hh : '.' ∉ h.toList) (hc : '.' ∉ c.toList)
    (hs : '.' ∉ s.toList) : parts (h ++ "." ++ c ++ "." ++ s) = [h, c, s] := by
  have hjoin : (h ++ "." ++ c ++ "." ++ s).toList =
      ['.'].intercalate [h.toList, c.toList, s.toList] := by
    simp [List.intercalate]
  rw [parts_eq, hjoin, List.splitOn_intercalate '.' (by simp [hh, hc, hs]) (by simp)]
  simp

/-- **A token of three parts** is its parts joined by dots. -/
theorem eq_of_parts {token h c s : String} (hp : parts token = [h, c, s]) :
    token = h ++ "." ++ c ++ "." ++ s := by
  rw [parts_eq] at hp
  -- the runs between dots are the parts' characters, and joining them back gives the token
  have hruns : token.toList.splitOn '.' = [h.toList, c.toList, s.toList] := by
    have := congrArg (List.map String.toList) hp
    simpa [List.map_map, Function.comp_def] using this
  rw [← String.toList_inj, ← @List.intercalate_splitOn _ token.toList _ _ '.', hruns]
  simp [List.intercalate]

/-! ## The signing input

The verifier does not join the first two parts again: it cuts the token after as many octets as
they and their dot take. The cut is exact because the parts are the runs between dots from the
start of the token and the dot is one octet. -/

/-- The signing input ends where the first two parts, joined by a dot, end. -/
theorem signingEnd_eq (h c : String) : signingEnd h c = (h ++ "." ++ c).rawEndPos := by
  have hdot : ".".utf8ByteSize = 1 := by decide
  ext
  simp [signingEnd, String.utf8ByteSize_append, hdot]

/-- The end of two parts joined by a dot is a character boundary of every text they begin. -/
theorem signingEnd_isValid (h c rest : String) :
    (signingEnd h c).IsValid (h ++ "." ++ c ++ rest) := by
  rw [signingEnd_eq]
  exact String.Pos.Raw.isValid_rawEndPos.append_right rest

/-- **The cut of a text that begins with two parts and a dot** is those two parts and the dot. -/
theorem signingInput_append (h c rest : String) :
    signingInput (h ++ "." ++ c ++ rest) h c = h ++ "." ++ c := by
  unfold signingInput
  rw [String.pos!_eq_pos (signingEnd_isValid h c rest)]
  exact String.Pos.Splits.copy_sliceTo_eq ⟨rfl, signingEnd_eq h c⟩

/-- A token of three parts is its first two joined by a dot, then a dot and the third. -/
theorem eq_append_dot_of_parts {token h c s : String} (hp : parts token = [h, c, s]) :
    token = h ++ "." ++ c ++ ("." ++ s) := by
  rw [eq_of_parts hp, String.append_assoc]

/-- The signing input of a token of three parts is its first two joined by a dot. -/
theorem signingInput_of_parts {token h c s : String} (hp : parts token = [h, c, s]) :
    signingInput token h c = h ++ "." ++ c := by
  rw [eq_append_dot_of_parts hp, signingInput_append]

/-- **The signing input is exactly the first two parts.** For a token of three parts, the offset
past the first two and their dot is a character boundary of the token, so the cut cannot panic;
it cuts the two parts joined by a dot, and what follows it is a dot and the signature. -/
theorem signingInput_eq_first_two_parts {token h c s : String} (hp : parts token = [h, c, s]) :
    (signingEnd h c).IsValid token ∧ signingInput token h c = h ++ "." ++ c ∧
      token = signingInput token h c ++ "." ++ s := by
  have hinput := signingInput_of_parts hp
  refine ⟨?_, hinput, ?_⟩
  · rw [eq_append_dot_of_parts hp]
    exact signingEnd_isValid h c _
  · rw [hinput]
    exact eq_of_parts hp

/-- Parts of several octets a character: the cut after `é`, a dot and `€` falls at octet 6 of
`é.€.sig`, a character boundary, and gives `é.€`. -/
theorem signingInput_multibyte_parts :
    parts "é.€.sig" = ["é", "€", "sig"] ∧
      ((signingEnd "é" "€").IsValid "é.€.sig" ∧
        signingInput "é.€.sig" "é" "€" = "é" ++ "." ++ "€" ∧
        "é.€.sig" = signingInput "é.€.sig" "é" "€" ++ "." ++ "sig") := by
  have hp : parts "é.€.sig" = ["é", "€", "sig"] := by
    have htoken : "é.€.sig" = "é" ++ "." ++ "€" ++ "." ++ "sig" := by decide
    rw [htoken]
    exact parts_join (by decide) (by decide) (by decide)
  exact ⟨hp, signingInput_eq_first_two_parts hp⟩

/-! ## Decoding the parts -/

/-- A part written in Base64url decodes to its octets. -/
theorem partOctets_b64 (bs : List UInt8) : partOctets (b64 bs) = .ok bs := by
  unfold partOctets b64
  rw [Base64.decode_encode Base64.Alphabet.url_lawful]

/-- **A part that decodes is the Base64url text of its octets.** -/
theorem eq_b64_of_partOctets {part : String} {bs : List UInt8} (h : partOctets part = .ok bs) :
    part = b64 bs := by
  unfold partOctets at h
  split at h
  · rename_i bs' hdec
    obtain rfl := Except.ok.inj h
    exact (Octets.eq_of_toUTF8_toList
      (Base64.encode_of_decode Base64.Alphabet.url_lawful hdec)).symm
  · cases h

/-- The header's algorithm is read from its decoded octets. -/
theorem headerAlgorithm_eq_ok_iff {part alg : String} :
    headerAlgorithm part = .ok alg ↔ ∃ hb, part = b64 hb ∧
      Json.decodeRecord headerShape hb = .ok [some alg] := by
  constructor
  · intro h
    unfold headerAlgorithm at h
    cases hp : partOctets part with
    | error e => simp [hp] at h; cases h
    | ok hb =>
      refine ⟨hb, eq_b64_of_partOctets hp, ?_⟩
      simp only [hp, bind, Except.bind] at h
      split at h
      · rename_i alg' hrec
        cases h
        exact hrec
      · cases h
  · rintro ⟨hb, rfl, hrec⟩
    simp only [headerAlgorithm, partOctets_b64, bind, Except.bind, hrec]
    rfl

/-- The claim set is read from the decoded octets of the claims part. -/
theorem claimSet_eq_ok_iff {part : String} {set : List (String × JsonValue)} :
    claimSet part = .ok set ↔ ∃ cb, part = b64 cb ∧ Json.parseValue cb = .ok (.object set) := by
  constructor
  · intro h
    unfold claimSet at h
    cases hp : partOctets part with
    | error e => simp [hp] at h; cases h
    | ok cb =>
      refine ⟨cb, eq_b64_of_partOctets hp, ?_⟩
      simp only [hp, bind, Except.bind] at h
      split at h
      · rename_i fs hval
        cases h
        exact hval
      · cases h
  · rintro ⟨cb, rfl, hval⟩
    simp only [claimSet, partOctets_b64, bind, Except.bind, hval]
    rfl

/-- A part that does not decode is `malformed`. -/
theorem partOctets_error {part : String} {e : TokenError} (h : partOctets part = .error e) :
    e = .malformed := by
  unfold partOctets at h
  split at h
  · cases h
  · exact (Except.error.inj h).symm

/-- Every refusal of the header is `malformed`. -/
theorem headerAlgorithm_error {part : String} {e : TokenError}
    (h : headerAlgorithm part = .error e) : e = .malformed := by
  unfold headerAlgorithm at h
  cases hp : partOctets part with
  | error e' =>
    simp only [hp, bind, Except.bind] at h
    rw [← Except.error.inj h]
    exact partOctets_error hp
  | ok hb =>
    simp only [hp, bind, Except.bind] at h
    split at h
    · cases h
    · exact (Except.error.inj h).symm

/-- Every refusal of the claims part is `malformed`. -/
theorem claimSet_error {part : String} {e : TokenError} (h : claimSet part = .error e) :
    e = .malformed := by
  unfold claimSet at h
  cases hp : partOctets part with
  | error e' =>
    simp only [hp, bind, Except.bind] at h
    rw [← Except.error.inj h]
    exact partOctets_error hp
  | ok cb =>
    simp only [hp, bind, Except.bind] at h
    split at h
    · cases h
    · exact (Except.error.inj h).symm

/-- The empty text is no header. -/
theorem decodeRecord_nil (shape : Json.RecordShape) (vs : List (Option String)) :
    Json.decodeRecord shape [] ≠ .ok vs := by
  simp [Json.decodeRecord, Json.Cursor.start, Json.skipBlank_nil, Json.Cursor.peek]

/-- The empty text is no value. -/
theorem parseValue_nil (v : JsonValue) : Json.parseValue [] ≠ .ok v := by
  simp [Json.parseValue, Json.readFuel, Json.readValue, Json.Cursor.start, Json.skipBlank_nil]

/-! ## The two stages of verification -/

/-- **The form of a token**, read with neither key nor clock: its three parts, the algorithm its
header names and its claim set, or `malformed`. -/
def readForm (token : String) :
    Except TokenError (String × String × String × String × List (String × JsonValue)) := do
  let (h, c, s) ← match parts token with
    | [h, c, s] =>
      if h ≠ "" ∧ c ≠ "" ∧ s.toList.all isUrlSymbol then pure (h, c, s) else throw .malformed
    | _ => throw .malformed
  let alg ← headerAlgorithm h
  let set ← claimSet c
  pure (h, c, s, alg, set)

/-- **The checks that need the key and the clock**, in their order: the algorithm, the
signature, the expiry; the claims are read last. -/
def checkForm (k : SigningKey) (now : Int) :
    String × String × String × String × List (String × JsonValue) → Except TokenError Claims
  | (h, c, s, alg, set) =>
    if alg ≠ algorithm then .error (.unsupportedAlgorithm alg)
    else if s ≠ k.signatureOf (h ++ "." ++ c) then .error .badSignature
    else
      match Claims.timeClaim set "exp" with
      | .error e => .error e
      | .ok exp => if now ≥ exp then .error .expired else Claims.ofClaimSet set

/-- **Verification is the form of the token, then the checks that need the key and the clock.** -/
theorem verifyAt_eq_readForm (k : SigningKey) (token : String) (now : Int) :
    k.verifyAt token now = readForm token >>= k.checkForm now := by
  unfold verifyAt readForm
  -- both read the same parts, header and claims; only the matches that do it differ
  rcases hp : parts token with _ | ⟨h, _ | ⟨c, _ | ⟨s, _ | ⟨x, rest⟩⟩⟩⟩
  · rfl
  · rfl
  · rfl
  · by_cases hform : h ≠ "" ∧ c ≠ "" ∧ s.toList.all isUrlSymbol
    · -- the cut the verifier signs is the first two parts joined again
      simp only [if_pos hform, bind, Except.bind, pure, Except.pure, signingInput_of_parts hp]
      cases headerAlgorithm h <;> cases claimSet c
      · rfl
      · rfl
      · rfl
      · rename_i alg set
        simp only [checkForm]
        by_cases halg : alg ≠ algorithm
        · simp only [if_pos halg]
          rfl
        · simp only [if_neg halg]
          by_cases hsig : s ≠ k.signatureOf (h ++ "." ++ c)
          · simp only [if_pos hsig]
            rfl
          · simp only [if_neg hsig]
            cases Claims.timeClaim set "exp" with
            | error e => rfl
            | ok exp =>
              by_cases hexp : now ≥ exp
              · simp only [if_pos hexp]
                rfl
              · simp only [if_neg hexp]
    · simp only [if_neg hform]
      rfl
  · rfl

/-- **The form of a token is read only as `malformed`** when it cannot be read. -/
theorem readForm_error {token : String} {e : TokenError} (h : readForm token = .error e) :
    e = .malformed := by
  unfold readForm at h
  rcases hp : parts token with _ | ⟨h', _ | ⟨c', _ | ⟨s', _ | ⟨x, rest⟩⟩⟩⟩ <;>
    simp only [hp] at h
  all_goals try exact (Except.error.inj h).symm
  -- three parts: the form of each, then the header, then the claims
  by_cases hform : h' ≠ "" ∧ c' ≠ "" ∧ s'.toList.all isUrlSymbol
  · simp only [if_pos hform, bind, Except.bind, pure, Except.pure] at h
    cases hH : headerAlgorithm h' with
    | error e' =>
      simp only [hH] at h
      rw [← Except.error.inj h]
      exact headerAlgorithm_error hH
    | ok alg =>
      cases hC : claimSet c' with
      | error e' =>
        simp only [hH, hC] at h
        rw [← Except.error.inj h]
        exact claimSet_error hC
      | ok set =>
        simp only [hH, hC] at h
        cases h
  · simp only [if_neg hform] at h
    exact (Except.error.inj h).symm

/-- A signature made of URL-safe symbols holds no dot. -/
theorem dot_not_mem {s : String} (hs : s.toList.all isUrlSymbol = true) : '.' ∉ s.toList := by
  intro hdot
  have := List.all_eq_true.mp hs '.' hdot
  exact absurd this (by decide)

/-- **The form of a token is read exactly** from a Base64url header naming an algorithm, a
Base64url JSON object and a signature of URL-safe symbols, joined by dots. -/
theorem readForm_eq_ok_iff {token h c s alg : String} {set : List (String × JsonValue)} :
    readForm token = .ok (h, c, s, alg, set) ↔
      ∃ hb cb, token = h ++ "." ++ c ++ "." ++ s ∧ h = b64 hb ∧ c = b64 cb ∧
        s.toList.all isUrlSymbol = true ∧
        Json.decodeRecord headerShape hb = .ok [some alg] ∧
        Json.parseValue cb = .ok (.object set) := by
  constructor
  · intro hread
    unfold readForm at hread
    rcases hp : parts token with _ | ⟨h', _ | ⟨c', _ | ⟨s', _ | ⟨x, rest⟩⟩⟩⟩ <;>
      simp only [hp] at hread
    all_goals try cases hread
    by_cases hform : h' ≠ "" ∧ c' ≠ "" ∧ s'.toList.all isUrlSymbol
    · simp only [if_pos hform, bind, Except.bind, pure, Except.pure] at hread
      cases hH : headerAlgorithm h' with
      | error e => simp only [hH] at hread; cases hread
      | ok alg' =>
        cases hC : claimSet c' with
        | error e => simp only [hH, hC] at hread; cases hread
        | ok set' =>
          simp only [hH, hC, Except.ok.injEq, Prod.mk.injEq] at hread
          obtain ⟨rfl, rfl, rfl, rfl, rfl⟩ := hread
          obtain ⟨hb, rfl, hrec⟩ := headerAlgorithm_eq_ok_iff.mp hH
          obtain ⟨cb, rfl, hval⟩ := claimSet_eq_ok_iff.mp hC
          exact ⟨hb, cb, eq_of_parts hp, rfl, rfl, hform.2.2, hrec, hval⟩
    · simp only [if_neg hform] at hread
      cases hread
  · rintro ⟨hb, cb, rfl, rfl, rfl, hs, hrec, hval⟩
    -- no part holds a dot, so the token splits back into them
    have hparts : parts (b64 hb ++ "." ++ b64 cb ++ "." ++ s) = [b64 hb, b64 cb, s] :=
      parts_join (fun hd => (b64_safe hb '.' hd).2 rfl) (fun hd => (b64_safe cb '.' hd).2 rfl)
        (dot_not_mem hs)
    have hh : b64 hb ≠ "" := b64_ne_empty (by rintro rfl; exact decodeRecord_nil _ _ hrec)
    have hc : b64 cb ≠ "" := b64_ne_empty (by rintro rfl; exact parseValue_nil _ hval)
    unfold readForm
    rw [hparts]
    simp only [if_pos (And.intro hh (And.intro hc hs)), bind, Except.bind, pure, Except.pure,
      headerAlgorithm_eq_ok_iff.mpr ⟨hb, rfl, hrec⟩, claimSet_eq_ok_iff.mpr ⟨cb, rfl, hval⟩]

/-! ## The verdicts -/

/-- **What the second stage can answer**, with the checks that lead to each answer. -/
theorem checkForm_cases (k : SigningKey) (now : Int) (h c s alg : String)
    (set : List (String × JsonValue)) :
    (alg ≠ algorithm ∧ k.checkForm now (h, c, s, alg, set) = .error (.unsupportedAlgorithm alg)) ∨
    (alg = algorithm ∧ s ≠ k.signatureOf (h ++ "." ++ c) ∧
      k.checkForm now (h, c, s, alg, set) = .error .badSignature) ∨
    (alg = algorithm ∧ s = k.signatureOf (h ++ "." ++ c) ∧
      k.checkForm now (h, c, s, alg, set) = .error (.claimsMissing "exp")) ∨
    (alg = algorithm ∧ s = k.signatureOf (h ++ "." ++ c) ∧ ∃ exp,
      Claims.timeClaim set "exp" = .ok exp ∧ exp ≤ now ∧
      k.checkForm now (h, c, s, alg, set) = .error .expired) ∨
    (alg = algorithm ∧ s = k.signatureOf (h ++ "." ++ c) ∧ ∃ exp,
      Claims.timeClaim set "exp" = .ok exp ∧ now < exp ∧
      k.checkForm now (h, c, s, alg, set) = Claims.ofClaimSet set) := by
  by_cases halg : alg = algorithm
  · by_cases hsig : s = k.signatureOf (h ++ "." ++ c)
    · right; right
      cases hexp : Claims.timeClaim set "exp" with
      | error e =>
        -- an unreadable expiry is refused by naming it
        left
        refine ⟨halg, hsig, ?_⟩
        simp [checkForm, halg, hsig, hexp, Claims.timeClaim_error hexp]
      | ok exp =>
        right
        by_cases hnow : exp ≤ now
        · exact .inl ⟨halg, hsig, exp, rfl, hnow, by simp [checkForm, halg, hsig, hexp, hnow]⟩
        · exact .inr ⟨halg, hsig, exp, rfl, by omega, by simp [checkForm, halg, hsig, hexp, hnow]⟩
    · exact .inr (.inl ⟨halg, hsig, by simp [checkForm, halg, hsig]⟩)
  · exact .inl ⟨halg, by simp [checkForm, halg]⟩

/-- A token whose form cannot be read is `malformed`, whatever the key and the clock. -/
theorem verifyAt_of_readForm_error {k : SigningKey} {token : String} {now : Int} {e : TokenError}
    (hr : readForm token = .error e) : k.verifyAt token now = .error .malformed := by
  rw [verifyAt_eq_readForm, hr, ← readForm_error hr]
  rfl

/-- A token whose form is read is judged by the second stage alone. -/
theorem verifyAt_of_readForm_ok {k : SigningKey} {token : String} {now : Int}
    {form : String × String × String × String × List (String × JsonValue)}
    (hr : readForm token = .ok form) : k.verifyAt token now = k.checkForm now form := by
  rw [verifyAt_eq_readForm, hr]
  rfl

/-- **What verification answers**: `malformed` for a form it cannot read, and otherwise what the
checks answer on the form. -/
theorem verifyAt_inv {k : SigningKey} {token : String} {now : Int} {r : Except TokenError Claims}
    (hv : k.verifyAt token now = r) :
    (∃ e, readForm token = .error e ∧ r = .error .malformed) ∨
      ∃ h c s alg set, readForm token = .ok (h, c, s, alg, set) ∧
        k.checkForm now (h, c, s, alg, set) = r := by
  cases hr : readForm token with
  | error e => exact .inl ⟨e, rfl, hv.symm.trans (verifyAt_of_readForm_error hr)⟩
  | ok form =>
    obtain ⟨h, c, s, alg, set⟩ := form
    exact .inr ⟨h, c, s, alg, set, rfl, (verifyAt_of_readForm_ok hr).symm.trans hv⟩

/-- No refusal of the claims is `malformed`, `unsupportedAlgorithm`, `badSignature` or
`expired`. -/
theorem ofClaimSet_ne_error {set : List (String × JsonValue)} {e : TokenError}
    (h : Claims.ofClaimSet set = .error e) (he : ∀ name, e ≠ .claimsMissing name) : False := by
  obtain ⟨name, rfl⟩ := Claims.ofClaimSet_error h
  exact he name rfl

/-- **`malformed` is exactly an unreadable form**, so neither the key nor the clock decides it. -/
theorem verifyAt_eq_malformed_iff (k : SigningKey) (token : String) (now : Int) :
    k.verifyAt token now = .error .malformed ↔ ∃ e, readForm token = .error e := by
  constructor
  · intro hv
    rcases verifyAt_inv hv with ⟨e, hr, -⟩ | ⟨h, c, s, alg, set, -, hv⟩
    · exact ⟨e, hr⟩
    -- no answer of the checks is `malformed`
    rcases checkForm_cases k now h c s alg set with
      ⟨-, hc⟩ | ⟨-, -, hc⟩ | ⟨-, -, hc⟩ | ⟨-, -, -, -, -, hc⟩ | ⟨-, -, -, -, -, hc⟩
    · rw [hc] at hv; cases hv
    · rw [hc] at hv; cases hv
    · rw [hc] at hv; cases hv
    · rw [hc] at hv; cases hv
    · rw [hc] at hv
      exact (ofClaimSet_ne_error hv (fun _ => nofun)).elim
  · rintro ⟨e, hr⟩
    exact verifyAt_of_readForm_error hr

/-- **`unsupportedAlgorithm` is exactly a readable form that names another algorithm**, so
neither the key nor the clock decides it. -/
theorem verifyAt_eq_unsupportedAlgorithm_iff (k : SigningKey) (token : String) (now : Int)
    (alg : String) :
    k.verifyAt token now = .error (.unsupportedAlgorithm alg) ↔
      ∃ h c s set, readForm token = .ok (h, c, s, alg, set) ∧ alg ≠ algorithm := by
  constructor
  · intro hv
    rcases verifyAt_inv hv with ⟨e, -, hm⟩ | ⟨h, c, s, alg', set, hr, hv⟩
    · cases hm
    rcases checkForm_cases k now h c s alg' set with
      ⟨halg, hc⟩ | ⟨-, -, hc⟩ | ⟨-, -, hc⟩ | ⟨-, -, -, -, -, hc⟩ | ⟨-, -, -, -, -, hc⟩
    · rw [hc] at hv
      cases hv
      exact ⟨h, c, s, set, hr, halg⟩
    · rw [hc] at hv; cases hv
    · rw [hc] at hv; cases hv
    · rw [hc] at hv; cases hv
    · rw [hc] at hv
      exact (ofClaimSet_ne_error hv (fun _ => nofun)).elim
  · rintro ⟨h, c, s, set, hr, halg⟩
    rw [verifyAt_of_readForm_ok hr]
    simp [checkForm, halg]

/-- **`badSignature` is exactly a readable form naming the algorithm with another signature**,
so the clock does not decide it. -/
theorem verifyAt_eq_badSignature_iff (k : SigningKey) (token : String) (now : Int) :
    k.verifyAt token now = .error .badSignature ↔
      ∃ h c s set, readForm token = .ok (h, c, s, algorithm, set) ∧
        s ≠ k.signatureOf (h ++ "." ++ c) := by
  constructor
  · intro hv
    rcases verifyAt_inv hv with ⟨e, -, hm⟩ | ⟨h, c, s, alg, set, hr, hv⟩
    · cases hm
    rcases checkForm_cases k now h c s alg set with
      ⟨-, hc⟩ | ⟨rfl, hsig, -⟩ | ⟨-, -, hc⟩ | ⟨-, -, -, -, -, hc⟩ | ⟨-, -, -, -, -, hc⟩
    · rw [hc] at hv; cases hv
    · exact ⟨h, c, s, set, hr, hsig⟩
    · rw [hc] at hv; cases hv
    · rw [hc] at hv; cases hv
    · rw [hc] at hv
      exact (ofClaimSet_ne_error hv (fun _ => nofun)).elim
  · rintro ⟨h, c, s, set, hr, hsig⟩
    rw [verifyAt_of_readForm_ok hr]
    simp [checkForm, hsig]

/-- **`expired` is exactly a signed readable form whose expiry is not after `now`.** -/
theorem verifyAt_eq_expired_iff (k : SigningKey) (token : String) (now : Int) :
    k.verifyAt token now = .error .expired ↔
      ∃ h c set exp, readForm token = .ok (h, c, k.signatureOf (h ++ "." ++ c), algorithm, set) ∧
        Claims.timeClaim set "exp" = .ok exp ∧ exp ≤ now := by
  constructor
  · intro hv
    rcases verifyAt_inv hv with ⟨e, -, hm⟩ | ⟨h, c, s, alg, set, hr, hv⟩
    · cases hm
    rcases checkForm_cases k now h c s alg set with
      ⟨-, hc⟩ | ⟨-, -, hc⟩ | ⟨-, -, hc⟩ | ⟨rfl, rfl, exp, hexp, hnow, -⟩ | ⟨-, -, -, -, -, hc⟩
    · rw [hc] at hv; cases hv
    · rw [hc] at hv; cases hv
    · rw [hc] at hv; cases hv
    · exact ⟨h, c, set, exp, hr, hexp, hnow⟩
    · rw [hc] at hv
      exact (ofClaimSet_ne_error hv (fun _ => nofun)).elim
  · rintro ⟨h, c, set, exp, hr, hexp, hnow⟩
    rw [verifyAt_of_readForm_ok hr]
    simp [checkForm, hexp, hnow]

/-- **Acceptance is exactly a signed readable form whose expiry is after `now`**, with the
claims read from its claim set. -/
theorem verifyAt_eq_ok_iff_readForm (k : SigningKey) (token : String) (now : Int)
    (claims : Claims) :
    k.verifyAt token now = .ok claims ↔
      ∃ h c set exp, readForm token = .ok (h, c, k.signatureOf (h ++ "." ++ c), algorithm, set) ∧
        Claims.timeClaim set "exp" = .ok exp ∧ now < exp ∧ Claims.ofClaimSet set = .ok claims := by
  constructor
  · intro hv
    rcases verifyAt_inv hv with ⟨e, -, hm⟩ | ⟨h, c, s, alg, set, hr, hv⟩
    · cases hm
    rcases checkForm_cases k now h c s alg set with
      ⟨-, hc⟩ | ⟨-, -, hc⟩ | ⟨-, -, hc⟩ | ⟨-, -, -, -, -, hc⟩ | ⟨rfl, rfl, exp, hexp, hnow, hc⟩
    · rw [hc] at hv; cases hv
    · rw [hc] at hv; cases hv
    · rw [hc] at hv; cases hv
    · rw [hc] at hv; cases hv
    · exact ⟨h, c, set, exp, hr, hexp, hnow, hc ▸ hv⟩
  · rintro ⟨h, c, set, exp, hr, hexp, hnow, hclaims⟩
    rw [verifyAt_of_readForm_ok hr]
    simp [checkForm, hexp, hnow, hclaims]

/-! ## Acceptance and the order of refusals -/

/-- **Acceptance is exactly the signed canonical form.** A token is accepted with some claims
exactly when it is the Base64url text of a header naming the algorithm and of a JSON object, then
the signature of those two texts joined by a dot; the object's `exp` is a signed 64-bit second
after `now`, and the claims are those read from the object. -/
theorem verifyAt_eq_ok_iff (k : SigningKey) (token : String) (now : Int) (claims : Claims) :
    k.verifyAt token now = .ok claims ↔ ∃ hb cb set,
      token = b64 hb ++ "." ++ b64 cb ++ "." ++ k.signatureOf (b64 hb ++ "." ++ b64 cb) ∧
      Json.decodeRecord headerShape hb = .ok [some algorithm] ∧
      Json.parseValue cb = .ok (.object set) ∧
      (∃ exp, Claims.timeClaim set "exp" = .ok exp ∧ now < exp) ∧
      Claims.ofClaimSet set = .ok claims := by
  rw [verifyAt_eq_ok_iff_readForm]
  constructor
  · rintro ⟨h, c, set, exp, hr, hexp, hnow, hclaims⟩
    obtain ⟨hb, cb, htoken, rfl, rfl, -, hrec, hval⟩ := readForm_eq_ok_iff.mp hr
    exact ⟨hb, cb, set, htoken, hrec, hval, ⟨exp, hexp, hnow⟩, hclaims⟩
  · rintro ⟨hb, cb, set, rfl, hrec, hval, ⟨exp, hexp, hnow⟩, hclaims⟩
    exact ⟨b64 hb, b64 cb, set, exp,
      readForm_eq_ok_iff.mpr ⟨hb, cb, rfl, rfl, rfl, signatureOf_safe k _, hrec, hval⟩, hexp, hnow,
      hclaims⟩

/-- **A header need not be an object**: the header read as a record of its one member `alg`
is also read from a JSON array that holds the algorithm's name. -/
theorem headerAlgorithm_array (alg : String) :
    headerAlgorithm (b64 (JsonValue.array [.string alg]).render.toUTF8.toList) = .ok alg := by
  have hopen : "[".toUTF8.toList = [0x5B] := by rw [Octets.toUTF8_toList]; rfl
  have hclose : "]".toUTF8.toList = [0x5D] := by rw [Octets.toUTF8_toList]; rfl
  have htext : (JsonValue.array [.string alg]).render.toUTF8.toList =
      0x5B :: 0x22 :: (alg.toList.flatMap Json.escapedOctets ++ 0x22 :: [0x5D]) := by
    simp [JsonValue.render, JsonValue.renderItems, -String.toUTF8_eq_toByteArray, hopen, hclose,
      Json.quoteString_octets]
  refine headerAlgorithm_eq_ok_iff.mpr ⟨_, rfl, ?_⟩
  -- the array's one element is the value of the header's one member
  rw [htext]
  simp [headerShape, Json.decodeRecord, Json.Cursor.start,
    Json.skipBlank_cons (b := 0x5B) (by decide), Json.skipBlank_cons (b := 0x22) (by decide),
    Json.skipBlank_cons (b := 0x5D) (by decide), Json.Cursor.peek, Json.Cursor.bump,
    Json.readArrayFields, Json.nextElement, Json.readField, Json.readText, Json.readString_quoted,
    Json.closeArray, Json.skipBlank_nil, Except.map]

/-- The header part `WyJIUzI1NiJd`, the Base64url text of the array `["HS256"]`, names the
algorithm. -/
theorem headerAlgorithm_array_part : headerAlgorithm "WyJIUzI1NiJd" = .ok algorithm := by
  have hpart : "WyJIUzI1NiJd" =
      b64 (JsonValue.array [.string algorithm]).render.toUTF8.toList := by
    cbv
  rw [hpart]
  exact headerAlgorithm_array algorithm

/-- **The refusals come in a fixed order** that neither the key nor the clock can change: an
unreadable form is `malformed`, then another algorithm, then a wrong signature, then an
unreadable expiry, then expiry, then the claims' own refusals. So `malformed` and
`unsupportedAlgorithm` hold whatever the key and the clock, `badSignature` whatever the clock; a
token accepted at `t` is accepted with the same claims at every earlier second, and one expired
at `t` stays expired. -/
theorem verifyAt_verdicts (k k' : SigningKey) (token : String) (t t' : Int) :
    k.verifyAt token t =
      (match readForm token with
      | .error _ => .error .malformed
      | .ok (h, c, s, alg, set) =>
        if alg ≠ algorithm then .error (.unsupportedAlgorithm alg)
        else if s ≠ k.signatureOf (h ++ "." ++ c) then .error .badSignature
        else
          match Claims.timeClaim set "exp" with
          | .error _ => .error (.claimsMissing "exp")
          | .ok exp => if t ≥ exp then .error .expired else Claims.ofClaimSet set) ∧
    (k.verifyAt token t = .error .malformed → k'.verifyAt token t' = .error .malformed) ∧
    (∀ alg, k.verifyAt token t = .error (.unsupportedAlgorithm alg) →
      k'.verifyAt token t' = .error (.unsupportedAlgorithm alg)) ∧
    (k.verifyAt token t = .error .badSignature → k.verifyAt token t' = .error .badSignature) ∧
    (t' ≤ t → ∀ claims, k.verifyAt token t = .ok claims → k.verifyAt token t' = .ok claims) ∧
    (t ≤ t' → k.verifyAt token t = .error .expired → k.verifyAt token t' = .error .expired) := by
  refine ⟨?_, ?_, ?_, ?_, ?_, ?_⟩
  · cases hr : readForm token with
    | error e => exact verifyAt_of_readForm_error hr
    | ok form =>
      obtain ⟨h, c, s, alg, set⟩ := form
      rw [verifyAt_of_readForm_ok hr]
      simp only [checkForm]
      -- the only refusal the second stage passes on is that of the expiry, which names it
      cases hexp : Claims.timeClaim set "exp" with
      | error e => rw [Claims.timeClaim_error hexp]
      | ok exp => rfl
  · intro hm
    exact (verifyAt_eq_malformed_iff k' token t').mpr ((verifyAt_eq_malformed_iff k token t).mp hm)
  · intro alg hu
    exact (verifyAt_eq_unsupportedAlgorithm_iff k' token t' alg).mpr
      ((verifyAt_eq_unsupportedAlgorithm_iff k token t alg).mp hu)
  · intro hb
    exact (verifyAt_eq_badSignature_iff k token t').mpr
      ((verifyAt_eq_badSignature_iff k token t).mp hb)
  · intro hle claims hv
    obtain ⟨h, c, set, exp, hr, hexp, hnow, hclaims⟩ :=
      (verifyAt_eq_ok_iff_readForm k token t claims).mp hv
    exact (verifyAt_eq_ok_iff_readForm k token t' claims).mpr
      ⟨h, c, set, exp, hr, hexp, by omega, hclaims⟩
  · intro hle hx
    obtain ⟨h, c, set, exp, hr, hexp, hnow⟩ := (verifyAt_eq_expired_iff k token t).mp hx
    exact (verifyAt_eq_expired_iff k token t').mpr ⟨h, c, set, exp, hr, hexp, by omega⟩

end SigningKey

end Backoffice
