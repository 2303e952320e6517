import Backoffice.Json.Scan

/-! # Reading JSON text into values

* **`readValue`** — one value at a cursor. Arrays and objects may nest 127 deep; the 128th
  opening bracket is refused before it is taken. Object members are kept sorted by key, and of
  two members with one key the later one stays.
* **`parseValue`** — a whole text: one value with only blank space after it.
* **`skipValue`** — one value checked for form only, at any depth, its strings and numbers not
  decoded. -/

namespace Backoffice

namespace Json

/-- How deep arrays and objects may nest, plus one: opening a container with only one level
left is refused. -/
def nestingLimit : Nat := 128

mutual

/-- **Read one value** at `c` with `depth` levels of nesting left. `fuel` bounds the number of
steps and is never the reason for a refusal when it is at least twice the length of the text. -/
def readValue : Nat → Nat → Cursor → Scan JsonValue
  | 0, _, c => .error (c.fail .recursionLimitExceeded)
  | fuel + 1, depth, c =>
    let c := c.skipBlank
    match c.rest with
    | [] => .error (c.failAhead .eofWhileParsingValue)
    | b :: tl =>
      let c1 : Cursor := ⟨tl, c.offset + 1⟩
      if b == 0x6E then (c1.expectWord [0x75, 0x6C, 0x6C]).map (fun c' => (.null, c'))
      else if b == 0x74 then (c1.expectWord [0x72, 0x75, 0x65]).map (fun c' => (.bool true, c'))
      else if b == 0x66 then
        (c1.expectWord [0x61, 0x6C, 0x73, 0x65]).map (fun c' => (.bool false, c'))
      else if b == 0x2D then (c1.readNumber false).map (fun (n, c') => (.number n, c'))
      else if isDigit b then (c.readNumber true).map (fun (n, c') => (.number n, c'))
      else if b == 0x22 then c1.readString.map (fun (s, c') => (.string s, c'))
      else if b == 0x5B then
        if depth ≤ 1 then .error (c.failAhead .recursionLimitExceeded)
        else readElements fuel (depth - 1) c1 true []
      else if b == 0x7B then
        if depth ≤ 1 then .error (c.failAhead .recursionLimitExceeded)
        else readMembers fuel (depth - 1) c1 true []
      else .error (c.failAhead .expectedSomeValue)

/-- The elements of an array after its `[`, `acc` holding those read so far, newest first. -/
def readElements : Nat → Nat → Cursor → Bool → List JsonValue → Scan JsonValue
  | 0, _, c, _, _ => .error (c.fail .recursionLimitExceeded)
  | fuel + 1, depth, c, first, acc =>
    let c := c.skipBlank
    match c.peek with
    | none => .error (c.failAhead .eofWhileParsingList)
    | some 0x5D => .ok (.array acc.reverse, c.bump)
    | some b =>
      let start : Except ReadError Cursor :=
        if b == 0x2C && !first then
          let c2 := c.bump.skipBlank
          match c2.peek with
          | none => .error (c2.failAhead .eofWhileParsingValue)
          | some 0x5D => .error (c2.failAhead .trailingComma)
          | some _ => .ok c2
        else if first then .ok c
        else .error (c.failAhead .expectedListCommaOrEnd)
      match start with
      | .error e => .error e
      | .ok c2 =>
        match readValue fuel depth c2 with
        | .error e => .error e
        | .ok (v, c3) => readElements fuel depth c3 false (v :: acc)

/-- The members of an object after its `{`, `acc` holding those read so far, sorted by key. -/
def readMembers : Nat → Nat → Cursor → Bool → List (String × JsonValue) → Scan JsonValue
  | 0, _, c, _, _ => .error (c.fail .recursionLimitExceeded)
  | fuel + 1, depth, c, first, acc =>
    let c := c.skipBlank
    match c.peek with
    | none => .error (c.failAhead .eofWhileParsingObject)
    | some 0x7D => .ok (.object acc, c.bump)
    | some b =>
      let keyStart : Except ReadError Cursor :=
        if b == 0x2C && !first then .ok c.bump.skipBlank
        else if first then .ok c
        else .error (c.failAhead .expectedObjectCommaOrEnd)
      match keyStart with
      | .error e => .error e
      | .ok c2 =>
        match c2.peek with
        | none => .error (c2.failAhead .eofWhileParsingValue)
        | some 0x7D => .error (c2.failAhead .trailingComma)
        | some 0x22 =>
          match c2.bump.readString with
          | .error e => .error e
          | .ok (k, c3) =>
            let c4 := c3.skipBlank
            match c4.peek with
            | none => .error (c4.failAhead .eofWhileParsingObject)
            | some 0x3A =>
              match readValue fuel depth c4.bump with
              | .error e => .error e
              | .ok (v, c5) => readMembers fuel depth c5 false (JsonValue.insertField k v acc)
            | some _ => .error (c4.failAhead .expectedColon)
        | some _ => .error (c2.failAhead .keyMustBeAString)

end

/-- Steps enough to read any value of a text of length `n`. -/
def readFuel (n : Nat) : Nat := 2 * n + 4

/-- **Read a whole text as one value**, with blank space only after it. -/
def parseValue (text : List UInt8) : Except ReadError JsonValue :=
  match readValue (readFuel text.length) nestingLimit (Cursor.start text) with
  | .error e => .error e
  | .ok (v, c) =>
    let c' := c.skipBlank
    if c'.rest.isEmpty then .ok v else .error (c'.failAhead .trailingCharacters)

/-- Where skipping stands: about to read a value, or after a value or an opening bracket of
the innermost open container (`acceptComma` false right after the bracket). -/
inductive SkipPhase where
  | value
  | between (acceptComma : Bool)

/-- **Skip values** with a stack of open containers, innermost first (`true` for an object).
Containers nest without limit. -/
def skipLoop : Nat → SkipPhase → List Bool → Cursor → Except ReadError Cursor
  | 0, _, _, c => .error (c.fail .recursionLimitExceeded)
  | fuel + 1, .value, stack, c =>
    let c := c.skipBlank
    match c.rest with
    | [] => .error (c.failAhead .eofWhileParsingValue)
    | b :: tl =>
      let c1 : Cursor := ⟨tl, c.offset + 1⟩
      let scalar : Option (Except ReadError Cursor) :=
        if b == 0x6E then some (c1.expectWord [0x75, 0x6C, 0x6C])
        else if b == 0x74 then some (c1.expectWord [0x72, 0x75, 0x65])
        else if b == 0x66 then some (c1.expectWord [0x61, 0x6C, 0x73, 0x65])
        else if b == 0x2D then some c1.skipNumber
        else if isDigit b then some c.skipNumber
        else if b == 0x22 then some c1.skipString
        else none
      match scalar with
      | some (.error e) => .error e
      | some (.ok c2) =>
        if stack.isEmpty then .ok c2 else skipLoop fuel (.between true) stack c2
      | none =>
        if b == 0x5B then skipLoop fuel (.between false) (false :: stack) c1
        else if b == 0x7B then skipLoop fuel (.between false) (true :: stack) c1
        else .error (c.failAhead .expectedSomeValue)
  | fuel + 1, .between acceptComma, stack, c =>
    match stack with
    | [] => .ok c
    | isObject :: outer =>
      let c := c.skipBlank
      let closer : UInt8 := if isObject then 0x7D else 0x5D
      let next : Except ReadError (Option Cursor) :=
        match c.peek with
        | none =>
          .error (c.failAhead (if isObject then .eofWhileParsingObject else .eofWhileParsingList))
        | some b =>
          if b == 0x2C && acceptComma then .ok (some c.bump)
          else if b == closer then .ok none
          else if acceptComma then
            .error (c.failAhead
              (if isObject then .expectedObjectCommaOrEnd else .expectedListCommaOrEnd))
          else .ok (some c)
      match next with
      | .error e => .error e
      | .ok none =>
        if outer.isEmpty then .ok c.bump else skipLoop fuel (.between true) outer c.bump
      | .ok (some c2) =>
        if isObject then
          let c3 := c2.skipBlank
          match c3.peek with
          | none => .error (c3.failAhead .eofWhileParsingObject)
          | some 0x22 =>
            match c3.bump.skipString with
            | .error e => .error e
            | .ok c4 =>
              let c5 := c4.skipBlank
              match c5.peek with
              | some 0x3A => skipLoop fuel .value stack c5.bump
              | some _ => .error (c5.failAhead .expectedColon)
              | none => .error (c5.failAhead .eofWhileParsingObject)
          | some _ => .error (c3.failAhead .keyMustBeAString)
        else skipLoop fuel .value stack c2

/-- **Skip one value** at `c`, checked for form only. -/
def skipValue (c : Cursor) : Except ReadError Cursor :=
  skipLoop (readFuel c.rest.length) .value [] c

end Json

end Backoffice
