import Backoffice.Text.RangeMap

/-! # Case mapping rules

How a case mapping treats one code point: kept, moved by a fixed distance (so that runs of
letters share one entry), or replaced by a sequence.

* **`CaseRule.ofToken`** — the written form: `k`, `s` and a signed hexadecimal distance, or
  `m` and dot-separated hexadecimal code points. -/

namespace Backoffice

namespace Text

/-- **The case mapping of a code point.** -/
inductive CaseRule where
  | keep
  | shift (delta : Int)
  | replace (codePoints : List Nat)
  deriving DecidableEq, Repr

/-- **A rule from its written form.** -/
def CaseRule.ofToken (s : String) : CaseRule :=
  match s.toList with
  | 's' :: '-' :: h => .shift (-(RangeTable.hexNumber h : Int))
  | 's' :: h => .shift (RangeTable.hexNumber h)
  | 'm' :: rest => .replace (codePointsOfText (String.ofList rest))
  | _ => .keep

end Text

end Backoffice
