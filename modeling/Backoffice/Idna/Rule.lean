import Backoffice.Text.RangeMap

/-! # What domain-name processing does with a character

Each code point has one rule in the mapping of internationalized domain names: kept, kept
although older processing changed it, dropped, refused, or replaced.

* **`IdnaRule`** — the rules; a replacement by a single code point a fixed distance away is
  written as a shift, so that runs of such code points share one entry.
* **`IdnaRule.ofToken`** — the written form of a rule in the mapping table: `v`, `d`, `i`,
  `x`, `s` and a signed hexadecimal distance, or `m` and dot-separated hexadecimal code
  points. -/

namespace Backoffice

namespace Idna

/-- **The rule for a code point.** -/
inductive Rule where
  | valid
  | deviation
  | ignored
  | disallowed
  | shift (delta : Int)
  | replace (codePoints : List Nat)
  deriving DecidableEq, Repr

/-- **A rule from its written form.** -/
def Rule.ofToken (s : String) : Rule :=
  match s.toList with
  | ['v'] => .valid
  | ['d'] => .deviation
  | ['i'] => .ignored
  | ['x'] => .disallowed
  | 's' :: '-' :: h => .shift (-(RangeTable.hexNumber h : Int))
  | 's' :: h => .shift (RangeTable.hexNumber h)
  | 'm' :: rest => .replace (codePointsOfText (String.ofList rest))
  | _ => .disallowed

end Idna

end Backoffice
