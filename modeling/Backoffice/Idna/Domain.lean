import Backoffice.Idna.MappingTable
import Backoffice.Idna.Punycode
import Backoffice.Text.Nfc
import Backoffice.Text.BidiClassTable
import Backoffice.Text.JoiningTypeTable
import Backoffice.Text.MarkTable

/-! # Internationalized domain names to ASCII

The conversion of a domain name to its ASCII form by the Unicode rules for internationalized
names, without the STD3 and hyphen restrictions and without length limits, nontransitional, with the joiner
and bidirectional checks.

* **`mapDomain`** — each code point by its rule: kept, dropped, replaced, or refused.
* **`labelFault?`** — the validity of one label: not starting with a combining mark, only valid
  code points, and the joiners U+200C and U+200D only after a virama or, for U+200C, between
  joining letters.
* **`bidiLabelOk`** — the six bidirectional conditions on a label of a domain name that holds
  right-to-left text.
* **`toAscii`** — map, normalize to NFC, split at full stops, decode and check labels written
  `xn--…`, check the others, check the bidirectional rules when they apply, and write every
  label that is not ASCII as `xn--` and its Punycode. **`toAsciiRefusing`** also refuses the
  mapped name when it holds one of a given set of ASCII code points. -/

namespace Backoffice

namespace Idna

/-- **Why a domain name has no ASCII form.** -/
inductive DomainError where
  | disallowed (codePoint : Nat)
  | badPunycode
  | notNormalized
  | hyphenPrefix
  | leadingMark
  | invalidCodePoint (codePoint : Nat)
  | badJoiner
  | bidi
  deriving DecidableEq, Repr

/-- The rule of a code point. -/
def ruleOf (cp : Nat) : Rule := mappingTable.find .disallowed cp

/-- **Map a domain name** code point by code point. -/
def mapDomain (cps : List Nat) : Except DomainError (List Nat) :=
  cps.foldlM (fun acc cp =>
    match ruleOf cp with
    | .valid | .deviation => .ok (acc ++ [cp])
    | .ignored => .ok acc
    | .disallowed => .error (.disallowed cp)
    | .shift d => .ok (acc ++ [(cp + d : Int).toNat])
    | .replace r => .ok (acc ++ r)) []

/-- The full stop that separates labels. -/
def fullStop : Nat := 0x2E

/-- The zero width non-joiner. -/
def zwnj : Nat := 0x200C

/-- The zero width joiner. -/
def zwj : Nat := 0x200D

/-- The combining class of viramas. -/
def viramaClass : Nat := 9

/-- The joining type of a code point. -/
def joiningOf (cp : Nat) : Text.JoiningType := Text.joiningTypeTable.find .nonJoining cp

/-- Whether, skipping transparent code points, the first one in `cps` joins as `ok` says. -/
def joinsAfterTransparent (ok : Text.JoiningType → Bool) : List Nat → Bool
  | [] => false
  | cp :: rest =>
    let jt := joiningOf cp
    if jt == .transparent then joinsAfterTransparent ok rest else ok jt

/-- **Whether the joiner at position `i` is allowed**, `before` holding the code points before
it (nearest first) and `after` those after it. -/
def joinerAllowed (cp : Nat) (before after : List Nat) : Bool :=
  let afterVirama := match before with
    | p :: _ => Text.combiningClass p == viramaClass
    | [] => false
  if cp == zwj then afterVirama
  else
    afterVirama ||
      (joinsAfterTransparent (fun jt => jt == .left || jt == .dual) before &&
        joinsAfterTransparent (fun jt => jt == .right || jt == .dual) after)

/-- Every joiner of a label in an allowed place. -/
def joinersOk (label : List Nat) : Bool :=
  (List.range label.length).all fun i =>
    let cp := label.getD i 0
    if cp == zwnj || cp == zwj then joinerAllowed cp (label.take i).reverse (label.drop (i + 1))
    else true

/-- **Why a label is not valid**, if it is not. -/
def labelFault? (label : List Nat) : Option DomainError :=
  match label with
  | [] => none
  | first :: _ =>
    if Text.combiningMarks.contains first then some .leadingMark
    else
      match label.find? (fun cp => match ruleOf cp with
        | .valid | .deviation => false
        | _ => true) with
      | some cp => some (.invalidCodePoint cp)
      | none => if joinersOk label then none else some .badJoiner

/-- The bidirectional class of a code point. -/
def bidiOf (cp : Nat) : Text.BidiClass := Text.bidiClassTable.find .l cp

/-- The class of the last code point that is not a non-spacing mark. -/
def lastNonMarkClass (label : List Nat) : Option Text.BidiClass :=
  (label.reverse.find? fun cp => bidiOf cp != .nsm).map bidiOf

/-- **The bidirectional conditions** on one label. -/
def bidiLabelOk (label : List Nat) : Bool :=
  match label with
  | [] => true
  | first :: rest =>
    match bidiOf first with
    | .l =>
      rest.all (fun cp => [.l, .en, .es, .cs, .et, .on, .bn, .nsm].contains (bidiOf cp)) &&
        (match lastNonMarkClass label with
          | some c => c == .l || c == .en
          | none => true)
    | .r | .al =>
      let classes := rest.map bidiOf
      classes.all (fun c => [.r, .al, .an, .en, .es, .cs, .et, .on, .bn, .nsm].contains c) &&
        (match lastNonMarkClass label with
          | some c => [.r, .al, .en, .an].contains c
          | none => false) &&
        !(classes.contains .en && classes.contains .an)
    | _ => false

/-- Whether a label holds right-to-left text or Arabic digits. -/
def isRightToLeft (label : List Nat) : Bool :=
  label.any fun cp => [.r, .al, .an].contains (bidiOf cp)

/-- The code points of `xn--`. -/
def acePrefix : List Nat := [0x78, 0x6E, 0x2D, 0x2D]

/-- **One label**: its checked Unicode form and its ASCII form. -/
def convertLabel (label : List Nat) : Except DomainError (List Nat × String) :=
  if label.take 4 == acePrefix then
    let text := String.ofList ((label.drop 4).map Char.ofNat)
    if label.any (· ≥ 0x80) then .error .badPunycode
    else
      match Punycode.decode text with
      | none => .error .badPunycode
      | some decoded =>
        if decoded.isEmpty || decoded.all (· < 0x80) then .error .badPunycode
        else if Text.nfc decoded != decoded then .error .notNormalized
        else if decoded.take 4 == acePrefix then .error .hyphenPrefix
        else
          match labelFault? decoded with
          | some e => .error e
          | none => .ok (decoded, String.ofList (label.map Char.ofNat))
  else
    match labelFault? label with
    | some e => .error e
    | none =>
      if label.all (· < 0x80) then .ok (label, String.ofList (label.map Char.ofNat))
      else .ok (label, "xn--" ++ Punycode.encode label)

/-- **The ASCII form of a domain name**, refusing the ASCII code points that `refused` names
once the name is mapped. -/
def toAsciiRefusing (refused : Nat → Bool) (domain : String) : Except DomainError String := do
  let mapped ← mapDomain (domain.toList.map Char.toNat)
  if let some cp := mapped.find? (fun cp => cp < 0x80 && refused cp) then throw (.disallowed cp)
  let labels := (Text.nfc mapped).splitOn fullStop
  let converted ← labels.mapM convertLabel
  let unicodeLabels := converted.map Prod.fst
  if unicodeLabels.any isRightToLeft && !unicodeLabels.all bidiLabelOk then throw .bidi
  pure (".".intercalate (converted.map Prod.snd))

/-- **The ASCII form of a domain name**, with every ASCII code point allowed. -/
def toAscii (domain : String) : Except DomainError String :=
  toAsciiRefusing (fun _ => false) domain

end Idna

end Backoffice
