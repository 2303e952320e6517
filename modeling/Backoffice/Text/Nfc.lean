import Backoffice.Text.CombiningClassTable
import Backoffice.Text.DecompositionTable

/-! # Canonical composition

Normalization Form C of a sequence of code points (Unicode Standard Annex 15): decompose
canonically, put each run of combining marks in order of combining class, then compose.

* **`decompose`** — the full canonical decomposition of a code point; a Hangul syllable splits
  into its leading consonant, vowel and optional trailing consonant by formula.
* **`reorder`** — each run of non-starters sorted by combining class, equal classes keeping
  their order.
* **`compose`** — each character joined to the last starter when they form a primary composite
  and no character between them is a starter or has a class as high as its own.
* **`nfc`** — the three in turn. -/

namespace Backoffice

namespace Text

/-- The canonical combining class of a code point. -/
def combiningClass (cp : Nat) : Nat := combiningClassTable.find 0 cp

/-- The first Hangul syllable. -/
def hangulBase : Nat := 0xAC00

/-- The number of Hangul syllables. -/
def hangulCount : Nat := 11172

/-- **The full canonical decomposition** of a code point, `depth` levels at most. -/
def decomposeDepth : Nat → Nat → List Nat
  | 0, cp => [cp]
  | depth + 1, cp =>
    if hangulBase ≤ cp ∧ cp < hangulBase + hangulCount then
      let s := cp - hangulBase
      let lead := 0x1100 + s / 588
      let vowel := 0x1161 + s % 588 / 28
      let trail := s % 28
      if trail = 0 then [lead, vowel] else [lead, vowel, 0x11A7 + trail]
    else
      match decompositionTable.get? cp with
      | some parts => parts.flatMap (decomposeDepth depth)
      | none => [cp]

/-- **The full canonical decomposition** of a code point; mappings nest at most four deep. -/
def decompose (cp : Nat) : List Nat := decomposeDepth 8 cp

/-- A non-starter inserted into a run kept sorted by combining class, after its equals. -/
def insertByClass (cp : Nat) : List Nat → List Nat
  | [] => [cp]
  | x :: xs =>
    if combiningClass cp < combiningClass x then cp :: x :: xs else x :: insertByClass cp xs

/-- **Canonical order**: runs of non-starters sorted by class, stably. `run` holds the current
run, sorted. -/
def reorderWith (run : List Nat) : List Nat → List Nat
  | [] => run
  | cp :: rest =>
    if combiningClass cp = 0 then run ++ cp :: reorderWith [] rest
    else reorderWith (insertByClass cp run) rest

/-- **Canonical order** of a sequence. -/
def reorder (cps : List Nat) : List Nat := reorderWith [] cps

/-- The primary composite of two code points, if there is one. -/
def composePair (a b : Nat) : Option Nat :=
  if 0x1100 ≤ a ∧ a ≤ 0x1112 ∧ 0x1161 ≤ b ∧ b ≤ 0x1175 then
    some (hangulBase + ((a - 0x1100) * 21 + (b - 0x1161)) * 28)
  else if hangulBase ≤ a ∧ a < hangulBase + hangulCount ∧ (a - hangulBase) % 28 = 0 ∧
      0x11A8 ≤ b ∧ b ≤ 0x11C2 then
    some (a + (b - 0x11A7))
  else compositionTable.get? (a * 0x110000 + b)

/-- **Composition state**: the output so far, newest first, split at the last starter: the
characters after it (newest first), the starter, and everything before it. -/
structure Composer where
  after : List Nat
  starter : Option Nat
  before : List Nat

/-- The output of a composition state, in order. -/
def Composer.output (s : Composer) : List Nat :=
  match s.starter with
  | some st => s.before.reverse ++ st :: s.after.reverse
  | none => s.before.reverse ++ s.after.reverse

/-- **One step of composition.** -/
def Composer.push (s : Composer) (cp : Nat) : Composer :=
  let cc := combiningClass cp
  let unblocked :=
    match s.after with
    | [] => true
    | last :: _ => combiningClass last < cc
  let joined := match s.starter with
    | some st => if unblocked then composePair st cp else none
    | none => none
  match joined, s.starter with
  | some c, _ => { s with starter := some c }
  | none, some st =>
    if cc = 0 then ⟨[], some cp, s.after ++ st :: s.before⟩ else { s with after := cp :: s.after }
  | none, none =>
    if cc = 0 then ⟨[], some cp, s.after ++ s.before⟩ else { s with after := cp :: s.after }

/-- **Canonical composition** of a sequence in canonical order. -/
def compose (cps : List Nat) : List Nat :=
  (cps.foldl Composer.push ⟨[], none, []⟩).output

/-- **Normalization Form C.** -/
def nfc (cps : List Nat) : List Nat := compose (reorder (cps.flatMap decompose))

end Text

end Backoffice
