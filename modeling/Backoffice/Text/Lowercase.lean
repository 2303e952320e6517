import Backoffice.Text.CasingTables

/-! # Lowercase

The full lowercase mapping of a text, with the one contextual rule that does not depend on a
language: a capital sigma at the end of a word becomes a final sigma.

* **`lowercaseChar`** — the lowercase of one character, one or more characters long.
* **`isFinalSigma`** — a sigma is word-final when, skipping case-ignorable characters, a cased
  letter comes before it and none comes after it.
* **`toLowercase`** — every character lowercased. -/

namespace Backoffice

namespace Text

/-- The capital sigma. -/
def capitalSigma : Char := 'Σ'

/-- **The lowercase of a character.** -/
def lowercaseChar (c : Char) : List Char :=
  match lowercaseTable.find .keep c.toNat with
  | .keep => [c]
  | .shift d => [Char.ofNat (c.toNat + d).toNat]
  | .replace cps => cps.map Char.ofNat

/-- Whether, skipping case-ignorable characters, the first one is cased. -/
def casedAfterIgnorable : List Char → Bool
  | [] => false
  | c :: rest =>
    if caseIgnorable.contains c.toNat then casedAfterIgnorable rest
    else casedLetters.contains c.toNat

/-- **A sigma at the end of a word**, `before` holding what precedes it (nearest first) and
`after` what follows. -/
def isFinalSigma (before after : List Char) : Bool :=
  casedAfterIgnorable before && !casedAfterIgnorable after

/-- Lowercase the rest of a text, `before` holding what was read (nearest first). -/
def lowercaseFrom (before : List Char) : List Char → List Char
  | [] => []
  | c :: rest =>
    let out :=
      if c == capitalSigma then [if isFinalSigma before rest then 'ς' else 'σ']
      else lowercaseChar c
    out ++ lowercaseFrom (c :: before) rest

/-- **The lowercase of a text.** -/
def toLowercase (s : String) : String := String.ofList (lowercaseFrom [] s.toList)

end Text

end Backoffice
