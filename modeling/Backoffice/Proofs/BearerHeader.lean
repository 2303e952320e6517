import Backoffice.Token.Bearer

/-! # Which headers carry a bearer token

`extractBearer` answers an `Authorization` header in one of three ways: the header is missing,
it is malformed, or it carries a token. The token is found by splitting the header at its spaces,
and `bearerToken?_eq_some_iff` reads that split as a grammar; here it is carried over to texts.

* **`extractBearer_error`** — the bearer scheme refuses only as a missing or a malformed header.
* **`extractBearer_eq_missing_iff`** — missing exactly for no header or the empty one.
* **`extractBearer_eq_ok_iff`** — the token `t` exactly for `"Bearer " ++ t`, where `t` is not
  empty and has no space.
* **`extractBearer_grammar`** — the three answers together: malformed in every other case. -/

namespace Backoffice

/-- A text is `"Bearer " ++ t` exactly when its characters are the scheme's and `t`'s. -/
theorem toList_eq_bearer_iff (value token : String) :
    value.toList = schemePrefix ++ token.toList ↔ value = "Bearer " ++ token := by
  unfold schemePrefix
  rw [← String.toList_append]
  exact String.toList_inj

/-- The grammar of the split, over texts: `bearerToken?` finds the characters of `t` exactly in
`"Bearer " ++ t`, with `t` not empty and without spaces. -/
theorem bearerToken?_toList_eq_some_iff (value t : String) :
    bearerToken? value.toList = some t.toList ↔
      value = "Bearer " ++ t ∧ t ≠ "" ∧ ' ' ∉ t.toList := by
  rw [bearerToken?_eq_some_iff, toList_eq_bearer_iff, ne_eq, String.toList_eq_nil_iff]

/-- The bearer scheme refuses only as a missing or a malformed header. -/
theorem extractBearer_error {h : Option String} {ae : AuthError}
    (he : extractBearer h = .error ae) : ae = .missingHeader ∨ ae = .malformedHeader := by
  unfold extractBearer at he
  split at he
  · cases he; exact .inl rfl
  · split at he
    · cases he; exact .inl rfl
    · split at he
      · cases he
      · cases he; exact .inr rfl

/-- A present header is missing to the bearer scheme exactly when it is empty. -/
theorem extractBearer_some_eq_missing_iff (text : String) :
    extractBearer (some text) = .error .missingHeader ↔ text = "" := by
  unfold extractBearer
  by_cases ht : text = ""
  · simp [ht]
  · simp only [ht, if_false, iff_false]
    split <;> simp

/-- The header is missing exactly when there is none or it is empty. -/
theorem extractBearer_eq_missing_iff (h : Option String) :
    extractBearer h = .error .missingHeader ↔ h = none ∨ h = some "" := by
  cases h with
  | none => simp [extractBearer]
  | some value => simp [extractBearer_some_eq_missing_iff]

/-- A present header gives the token `t` exactly when `bearerToken?` finds `t` in it. -/
theorem extractBearer_some_eq_ok_iff (value t : String) :
    extractBearer (some value) = .ok t ↔ bearerToken? value.toList = some t.toList := by
  by_cases hv : value = ""
  · -- the empty header is missing, and its one empty piece is no scheme and token
    have hempty : bearerToken? [] = none := by decide
    simp [extractBearer, hv, hempty]
  · cases hb : bearerToken? value.toList with
    | none => simp [extractBearer, hv, hb]
    | some token =>
      simp only [extractBearer, hv, if_false, hb, Except.ok.injEq, Option.some.injEq]
      constructor
      · rintro rfl
        exact (String.toList_ofList).symm
      · rintro rfl
        exact String.ofList_toList

/-- **The token of a header**: `t` exactly for `"Bearer " ++ t`, where `t` is not empty and has
no space. -/
theorem extractBearer_eq_ok_iff (h : Option String) (t : String) :
    extractBearer h = .ok t ↔ h = some ("Bearer " ++ t) ∧ t ≠ "" ∧ ' ' ∉ t.toList := by
  cases h with
  | none => simp [extractBearer]
  | some value =>
    rw [extractBearer_some_eq_ok_iff, bearerToken?_toList_eq_some_iff, Option.some.injEq]

/-- **Which headers give which answer**: missing exactly for no header or the empty one; the
token `t` exactly for `"Bearer " ++ t` where `t` is not empty and has no space; malformed in
every other case. -/
theorem extractBearer_grammar (h : Option String) :
    (extractBearer h = .error .missingHeader ↔ h = none ∨ h = some "") ∧
    (∀ t : String, extractBearer h = .ok t ↔
      h = some ("Bearer " ++ t) ∧ t ≠ "" ∧ ' ' ∉ t.toList) ∧
    ((h ≠ none ∧ h ≠ some "" ∧
      ¬ ∃ t : String, h = some ("Bearer " ++ t) ∧ t ≠ "" ∧ ' ' ∉ t.toList) →
      extractBearer h = .error .malformedHeader) := by
  refine ⟨extractBearer_eq_missing_iff h, extractBearer_eq_ok_iff h, ?_⟩
  rintro ⟨hnone, hempty, hnot⟩
  -- of the three answers, the other two are excluded by the first two parts
  cases hr : extractBearer h with
  | ok t => exact absurd ⟨t, (extractBearer_eq_ok_iff h t).mp hr⟩ hnot
  | error ae =>
    rcases extractBearer_error hr with rfl | rfl
    · rcases (extractBearer_eq_missing_iff h).mp hr with h0 | h0
      · exact absurd h0 hnone
      · exact absurd h0 hempty
    · rfl

end Backoffice
