import Backoffice.Text.RangeMap

/-! # Bidirectional classes

The bidirectional class of a character, as far as the rules for domain names tell them apart.

* **`BidiClass`** — left-to-right, right-to-left, Arabic letter, Arabic and European numbers,
  the European separator and terminator, the common separator, other neutrals, boundary
  neutrals and non-spacing marks; every other class is `other`.
* **`BidiClass.ofToken`** — the class from its usual abbreviation. -/

namespace Backoffice

namespace Text

/-- **A bidirectional class.** -/
inductive BidiClass where
  | l
  | r
  | al
  | an
  | en
  | es
  | cs
  | et
  | on
  | bn
  | nsm
  | other
  deriving DecidableEq, Repr

/-- **The class with a given abbreviation.** -/
def BidiClass.ofToken : String → BidiClass
  | "L" => .l
  | "R" => .r
  | "AL" => .al
  | "AN" => .an
  | "EN" => .en
  | "ES" => .es
  | "CS" => .cs
  | "ET" => .et
  | "ON" => .on
  | "BN" => .bn
  | "NSM" => .nsm
  | _ => .other

end Text

end Backoffice
