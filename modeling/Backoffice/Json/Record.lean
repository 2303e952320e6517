import Backoffice.Json.Reader
import Backoffice.Text.Quoted
import Backoffice.Decimal.Shortest

/-! # Reading JSON text into records of text fields

A record shape names a record type and its fields, each a required string or an optional one
(absent or `null` meaning none). `decodeRecord` reads a whole text into the field values, with
the refusals a reader of typed records gives:

* an object: members in any order; unknown members are skipped (checked for form only); a field
  given twice is refused when the second key is read; after the closing brace the first
  required field that was not given is refused, in field order;
* an array: the field values in field order; a missing required value is refused as a short
  array; extra values are refused as trailing characters;
* anything else: refused as a value of the wrong type, which is described (`null`,
  `boolean `true``, `integer `5``, `floating point `1.5``, `string "…"`, `sequence`, `map`).

Data refusals are placed after the blank space and the closing bracket that follow the place
where they arose. Each refusal carries a path: the key or index of the member whose value was
being read, or none. A refusal of the punctuation between members (a comma, a colon, a closing
bracket, the end of the text) and of a key belongs to the record itself and has no path. -/

namespace Backoffice

namespace Json

/-- Whether a field must be given or may be left out. -/
inductive FieldShape where
  | required
  | optional
  deriving DecidableEq, Repr

/-- A field of a record: its key in JSON text and its shape. -/
structure RecordField where
  key : String
  shape : FieldShape
  deriving DecidableEq, Repr

/-- **A record shape**: the type's name (used in refusals) and its fields in order. -/
structure RecordShape where
  name : String
  fields : List RecordField
  deriving Repr

/-- One step of the path to the value being read when reading failed. -/
inductive PathStep where
  | key (name : String)
  | index (i : Nat)
  | unknown
  deriving DecidableEq, Repr

/-- **A refusal with its path**, outermost step first. -/
structure DecodeError where
  error : ReadError
  path : List PathStep
  deriving DecidableEq, Repr

/-- Text of a path: keys joined by dots, indices in brackets. -/
def pathText : List PathStep → String
  | [] => ""
  | steps =>
    let one : PathStep → String
      | .key k => k
      | .index i => "[" ++ toString i ++ "]"
      | .unknown => "?"
    (steps.foldl (fun (acc : String × Bool) s =>
      match s with
      | .index _ => (acc.1 ++ one s, true)
      | _ => (acc.1 ++ (if acc.2 then "." else "") ++ one s, true)) ("", false)).1

/-- **The wording of a refusal with its path**: the path and a colon come first unless every
step is unknown. -/
def DecodeError.render (text : List UInt8) (e : DecodeError) : String :=
  let core := e.error.render text
  if e.path.all (· == .unknown) then core else pathText e.path ++ ": " ++ core

/-- A refusal at the top, with no path. -/
def atTop (e : ReadError) : DecodeError := ⟨e, []⟩

/-- A data refusal not yet placed. -/
def dataFault (m : String) : ReadError := ⟨.data m, none⟩

/-- How a number is described in a refusal. -/
def describeNumber : JsonNumber → String
  | .posInt n => "integer `" ++ toString n ++ "`"
  | .negInt n => "integer `" ++ toString n ++ "`"
  | .float bits => "floating point `" ++ Shortest.render bits ++ "`"

/-- **A value of the wrong type at `c`**: it is read (containers are only looked at) and
described against what was `expected`. The refusal is placed after what was read. -/
def wrongType (c : Cursor) (expected : String) : ReadError :=
  let c := c.skipBlank
  let described (what : String) (after : Cursor) : ReadError :=
    (dataFault ("invalid type: " ++ what ++ ", expected " ++ expected)).placeAt after.offset
  match c.rest with
  | [] => c.failAhead .eofWhileParsingValue
  | b :: tl =>
    let c1 : Cursor := ⟨tl, c.offset + 1⟩
    if b == 0x6E then
      match c1.expectWord [0x75, 0x6C, 0x6C] with
      | .ok c2 => described "null" c2
      | .error e => e
    else if b == 0x74 then
      match c1.expectWord [0x72, 0x75, 0x65] with
      | .ok c2 => described "boolean `true`" c2
      | .error e => e
    else if b == 0x66 then
      match c1.expectWord [0x61, 0x6C, 0x73, 0x65] with
      | .ok c2 => described "boolean `false`" c2
      | .error e => e
    else if b == 0x2D then
      match c1.readNumber false with
      | .ok (n, c2) => described (describeNumber n) c2
      | .error e => e
    else if isDigit b then
      match c.readNumber true with
      | .ok (n, c2) => described (describeNumber n) c2
      | .error e => e
    else if b == 0x22 then
      match c1.readString with
      | .ok (s, c2) => described ("string " ++ Text.quoted s) c2
      | .error e => e
    else if b == 0x5B then described "sequence" c
    else if b == 0x7B then described "map" c
    else c.failAhead .expectedSomeValue

/-- **A string value at `c`.** -/
def readText (c : Cursor) : Scan String :=
  let c := c.skipBlank
  match c.peek with
  | none => .error (c.failAhead .eofWhileParsingValue)
  | some 0x22 => c.bump.readString
  | some _ => .error (wrongType c "a string")

/-- **A value of a field of the given shape at `c`**: a string, or for an optional field also
`null`. -/
def readField (shape : FieldShape) (c : Cursor) : Scan (Option String) :=
  match shape with
  | .required => (readText c).map fun (s, c') => (some s, c')
  | .optional =>
    let c := c.skipBlank
    match c.peek with
    | some 0x6E => (c.bump.expectWord [0x75, 0x6C, 0x6C]).map fun c' => (none, c')
    | _ => (readText c).map fun (s, c') => (some s, c')

/-- The start of the next array element: `none` at the closing bracket. -/
def nextElement (c : Cursor) (first : Bool) : Except ReadError (Option Cursor) :=
  let c := c.skipBlank
  match c.peek with
  | none => .error (c.failAhead .eofWhileParsingList)
  | some 0x5D => .ok none
  | some b =>
    if b == 0x2C && !first then
      let c2 := c.bump.skipBlank
      match c2.peek with
      | none => .error (c2.failAhead .eofWhileParsingValue)
      | some 0x5D => .error (c2.failAhead .trailingComma)
      | some _ => .ok (some c2)
    else if first then .ok (some c)
    else .error (c.failAhead .expectedListCommaOrEnd)

/-- The end of an array: its closing bracket is taken. The cursor after what was looked at comes
back even when the end is refused. -/
def closeArray (c : Cursor) : Cursor × Option ReadError :=
  let c := c.skipBlank
  match c.peek with
  | some 0x5D => (c.bump, none)
  | some 0x2C =>
    let c2 := c.bump.skipBlank
    match c2.peek with
    | some 0x5D => (c2, some (c2.failAhead .trailingComma))
    | _ => (c2, some (c2.failAhead .trailingCharacters))
  | some _ => (c, some (c.failAhead .trailingCharacters))
  | none => (c, some (c.failAhead .eofWhileParsingList))

/-- The end of an object: its closing brace is taken. The cursor after what was looked at comes
back even when the end is refused. -/
def closeObject (c : Cursor) : Cursor × Option ReadError :=
  let c := c.skipBlank
  match c.peek with
  | some 0x7D => (c.bump, none)
  | some 0x2C => (c, some (c.failAhead .trailingComma))
  | some _ => (c, some (c.failAhead .trailingCharacters))
  | none => (c, some (c.failAhead .eofWhileParsingObject))

/-- Result of reading a record's members: the values and the cursor after them, or a refusal
with the cursor where reading stood (which places a data refusal once the end is looked at). -/
abbrev Visit (α : Type) := Except (DecodeError × Cursor) (α × Cursor)

/-- Array form: field values in field order, `index` counting the elements asked for and
`first` whether none was read yet. -/
def readArrayFields (shape : RecordShape) :
    List RecordField → Nat → Bool → Cursor → Visit (List (Option String))
  | [], _, _, c => .ok ([], c)
  | f :: fs, index, first, c =>
    match nextElement c first with
    | .error e => .error (atTop e, c)
    | .ok none =>
      match f.shape with
      | .required =>
        .error (atTop (dataFault ("invalid length " ++ toString index ++ ", expected struct " ++
          shape.name ++ " with " ++ toString shape.fields.length ++ " elements")), c)
      | .optional =>
        match readArrayFields shape fs (index + 1) first c with
        | .error e => .error e
        | .ok (vs, c') => .ok (none :: vs, c')
    | .ok (some c2) =>
      match readField f.shape c2 with
      | .error e => .error (⟨e, [.index index]⟩, c2)
      | .ok (v, c3) =>
        match readArrayFields shape fs (index + 1) false c3 with
        | .error e => .error e
        | .ok (vs, c') => .ok (v :: vs, c')

/-- The field values given so far, by field; `none` for a field not yet given. -/
abbrev Given := List (Option (Option String))

/-- The field values once the object has ended: the first required field not given is refused. -/
def finishGiven (fields : List RecordField) (g : Given) : Except ReadError (List (Option String)) :=
  match fields, g with
  | f :: fs, x :: xs =>
    match x, f.shape with
    | some v, _ => (finishGiven fs xs).map (v :: ·)
    | none, .optional => (finishGiven fs xs).map (none :: ·)
    | none, .required => .error (dataFault ("missing field `" ++ f.key ++ "`"))
  | _, _ => .ok []

/-- Object form: members until the closing brace. `fuel` bounds the members read. -/
def readObjectFields (shape : RecordShape) :
    Nat → Given → Bool → Cursor → Visit (List (Option String))
  | 0, _, _, c => .error (atTop (c.fail .recursionLimitExceeded), c)
  | fuel + 1, given, first, c =>
    let c := c.skipBlank
    let keyAt : Except ReadError (Option Cursor) :=
      match c.peek with
      | none => .error (c.failAhead .eofWhileParsingObject)
      | some 0x7D => .ok none
      | some b =>
        if b == 0x2C && !first then .ok (some c.bump.skipBlank)
        else if first then .ok (some c)
        else .error (c.failAhead .expectedObjectCommaOrEnd)
    match keyAt with
    | .error e => .error (⟨e, [.unknown]⟩, c)
    | .ok none =>
      match finishGiven shape.fields given with
      | .error e => .error (atTop e, c)
      | .ok vs => .ok (vs, c)
    | .ok (some c2) =>
      let key : Except ReadError (String × Cursor) :=
        match c2.peek with
        | none => .error (c2.failAhead .eofWhileParsingValue)
        | some 0x7D => .error (c2.failAhead .trailingComma)
        | some 0x22 => c2.bump.readString
        | some _ => .error (c2.failAhead .keyMustBeAString)
      match key with
      | .error e => .error (⟨e, [.unknown]⟩, c2)
      | .ok (k, c3) =>
        let slot := shape.fields.findIdx? (·.key == k)
        let already := match slot with
          | some j => (given[j]?.bind id).isSome
          | none => false
        if already then .error (atTop (dataFault ("duplicate field `" ++ k ++ "`")), c3)
        else
          let c4 := c3.skipBlank
          let valueAt : Except ReadError Cursor :=
            match c4.peek with
            | some 0x3A => .ok c4.bump
            | some _ => .error (c4.failAhead .expectedColon)
            | none => .error (c4.failAhead .eofWhileParsingObject)
          match valueAt with
          | .error e => .error (atTop e, c4)
          | .ok c5 =>
            match slot with
            | some j =>
              match shape.fields[j]? with
              | some f =>
                match readField f.shape c5 with
                | .error e => .error (⟨e, [.key k]⟩, c5)
                | .ok (v, c6) => readObjectFields shape fuel (given.set j (some v)) false c6
              | none => .error (atTop (c5.fail .recursionLimitExceeded), c5)
            | none =>
              match skipValue c5 with
              | .error e => .error (⟨e, [.key k]⟩, c5)
              | .ok c6 => readObjectFields shape fuel given false c6

/-- A refusal from reading members, placed where reading stood once the container's end was
looked at. -/
def placeAfterEnd (close : Cursor → Cursor × Option ReadError) (e : DecodeError) (stop : Cursor) :
    DecodeError :=
  { e with error := e.error.placeAt (close stop).1.offset }

/-- **Read a whole text as a record of the given shape.** -/
def decodeRecord (shape : RecordShape) (text : List UInt8) :
    Except DecodeError (List (Option String)) :=
  let c := (Cursor.start text).skipBlank
  let body : Except DecodeError (List (Option String) × Cursor) :=
    match c.peek with
    | none => .error (atTop (c.failAhead .eofWhileParsingValue))
    | some 0x5B =>
      match readArrayFields shape shape.fields 0 true c.bump with
      | .error (e, stop) => .error (placeAfterEnd closeArray e stop)
      | .ok (vs, c') =>
        match closeArray c' with
        | (_, some e) => .error (atTop e)
        | (c'', none) => .ok (vs, c'')
    | some 0x7B =>
      match readObjectFields shape (readFuel text.length) (shape.fields.map fun _ => none) true
          c.bump with
      | .error (e, stop) => .error (placeAfterEnd closeObject e stop)
      | .ok (vs, c') =>
        match closeObject c' with
        | (_, some e) => .error (atTop e)
        | (c'', none) => .ok (vs, c'')
    | some _ => .error (atTop (wrongType c ("struct " ++ shape.name)))
  match body with
  | .error e => .error e
  | .ok (vs, c') =>
    let c'' := c'.skipBlank
    if c''.rest.isEmpty then .ok vs else .error (atTop (c''.failAhead .trailingCharacters))

end Json

end Backoffice
