import Backoffice.Token.Error

/-! # Bearer credentials

The token carried by an `Authorization` header of the bearer scheme.

* **`bearerToken?`** — the header's characters split at every space must be exactly two pieces,
  the word `Bearer` and a non-empty token. Tabs and every other character count as token
  characters; a leading, trailing or doubled space makes an empty piece or a third one.
* **`extractBearer`** — a missing or empty header is `missingHeader`; a header not of that form
  is `malformedHeader`.

**`bearerToken?_eq_some_iff`** reads the split as a grammar: the scheme word, one space, and a
non-empty token without spaces. -/

namespace Backoffice

/-- The scheme word, as characters. -/
def bearerScheme : List Char := "Bearer".toList

/-- The scheme word and its space, as characters. -/
def schemePrefix : List Char := "Bearer ".toList

/-- **The token after the bearer scheme**: the characters split at every space must be two
pieces, the scheme word and a non-empty token. -/
def bearerToken? (cs : List Char) : Option (List Char) :=
  match cs.splitOn ' ' with
  | [scheme, token] => if scheme = bearerScheme ∧ token ≠ [] then some token else none
  | _ => none

/-- **The token of an `Authorization` header.** -/
def extractBearer : Option String → Except AuthError String
  | none => .error .missingHeader
  | some value =>
    if value = "" then .error .missingHeader
    else
      match bearerToken? value.toList with
      | some token => .ok (String.ofList token)
      | none => .error .malformedHeader

/-! ## Splitting at a separator -/

/-- No piece of a split holds the separator. -/
theorem not_mem_of_mem_splitOn {α : Type} [BEq α] [LawfulBEq α] {a : α} :
    ∀ {xs : List α} {piece : List α}, piece ∈ xs.splitOn a → a ∉ piece
  | [], piece, h => by
    rw [List.splitOn_nil, List.mem_singleton] at h
    simp [h]
  | x :: xs, piece, h => by
    rw [List.splitOn_cons_eq_if_modifyHead] at h
    split at h
    · -- the separator ends the first piece, which is empty
      rcases List.mem_cons.mp h with rfl | h
      · simp
      · exact not_mem_of_mem_splitOn h
    · -- another element joins the first piece of the rest
      rename_i hx
      obtain ⟨first, rest, hsplit⟩ := List.exists_cons_of_ne_nil (List.splitOn_ne_nil a xs)
      rw [hsplit, List.modifyHead_cons] at h
      rcases List.mem_cons.mp h with rfl | h
      · have hfirst : a ∉ first := not_mem_of_mem_splitOn (hsplit ▸ List.mem_cons_self)
        simp only [List.mem_cons, not_or]
        exact ⟨fun hax => hx (by simp [hax]), hfirst⟩
      · exact not_mem_of_mem_splitOn (hsplit ▸ List.mem_cons_of_mem first h)

/-- **A list splits into two pieces exactly at its one separator.** -/
theorem splitOn_eq_pair_iff {α : Type} [BEq α] [LawfulBEq α] {a : α} {xs p q : List α} :
    xs.splitOn a = [p, q] ↔ xs = p ++ a :: q ∧ a ∉ p ∧ a ∉ q := by
  constructor
  · intro h
    refine ⟨?_, not_mem_of_mem_splitOn (h ▸ List.mem_cons_self),
      not_mem_of_mem_splitOn (h ▸ List.mem_cons_of_mem p List.mem_cons_self)⟩
    -- joining the pieces with the separator gives the list back
    calc xs = [a].intercalate (xs.splitOn a) := (List.intercalate_splitOn a).symm
      _ = p ++ a :: q := by rw [h]; simp [List.intercalate]
  · rintro ⟨rfl, hp, hq⟩
    have hjoin : p ++ a :: q = [a].intercalate [p, q] := by simp [List.intercalate]
    rw [hjoin, List.splitOn_intercalate a (by simp [hp, hq]) (by simp)]

/-! ## The grammar of the split -/

/-- `bearerToken?` finds `token` exactly when the characters are the scheme's followed by
`token`, and `token` is not empty and has no space. -/
theorem bearerToken?_eq_some_iff (cs token : List Char) :
    bearerToken? cs = some token ↔ cs = schemePrefix ++ token ∧ token ≠ [] ∧ ' ' ∉ token := by
  have hprefix : schemePrefix = bearerScheme ++ [' '] := by decide
  have hscheme : ' ' ∉ bearerScheme := by decide
  constructor
  · intro h
    unfold bearerToken? at h
    split at h
    · rename_i scheme rest hsplit
      split at h
      · rename_i hform
        obtain ⟨rfl, hne⟩ := hform
        cases h
        obtain ⟨hcs, -, hsp⟩ := splitOn_eq_pair_iff.mp hsplit
        exact ⟨by rw [hcs, hprefix, List.append_assoc]; rfl, hne, hsp⟩
      · cases h
    · cases h
  · rintro ⟨rfl, hne, hsp⟩
    have hsplit : (schemePrefix ++ token).splitOn ' ' = [bearerScheme, token] := by
      rw [splitOn_eq_pair_iff, hprefix, List.append_assoc]
      exact ⟨rfl, hscheme, hsp⟩
    simp [bearerToken?, hsplit, hne]

end Backoffice
