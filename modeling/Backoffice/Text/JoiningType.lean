import Backoffice.Text.RangeMap

/-! # Joining types

How a character of a cursive script joins its neighbours.

* **`JoiningType`** — dual-joining, left-joining, right-joining, transparent, join-causing, or
  not joining.
* **`JoiningType.ofToken`** — the type from its one-letter abbreviation. -/

namespace Backoffice

namespace Text

/-- **A joining type.** -/
inductive JoiningType where
  | dual
  | left
  | right
  | transparent
  | causing
  | nonJoining
  deriving DecidableEq, Repr

/-- **The type with a given abbreviation.** -/
def JoiningType.ofToken : String → JoiningType
  | "D" => .dual
  | "L" => .left
  | "R" => .right
  | "T" => .transparent
  | "C" => .causing
  | _ => .nonJoining

end Text

end Backoffice
