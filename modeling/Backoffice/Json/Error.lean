/-! # Why JSON text is refused, and where

* **`SyntaxCode`** — the ways the text itself is wrong, each with its fixed wording.
* **`ReadError`** — a syntax fault or a data fault (the text is JSON, but not of the expected
  shape), with the octet offset at which reading stopped, once known.
* **`textPosition`** — an offset as a line and a column: the line counts the newlines before
  the offset, and the column counts the octets between the last newline and the offset.
* **`ReadError.render`** — the wording, followed by ` at line L column C` when the offset is
  known. -/

namespace Backoffice

namespace Json

/-- **A fault of JSON syntax.** The names say where reading stopped. -/
inductive SyntaxCode where
  | eofWhileParsingList
  | eofWhileParsingObject
  | eofWhileParsingString
  | eofWhileParsingValue
  | expectedColon
  | expectedListCommaOrEnd
  | expectedObjectCommaOrEnd
  | expectedSomeIdent
  | expectedSomeValue
  | invalidEscape
  | invalidNumber
  | numberOutOfRange
  | invalidUnicodeCodePoint
  | controlCharacterWhileParsingString
  | keyMustBeAString
  | loneLeadingSurrogateInHexEscape
  | trailingComma
  | trailingCharacters
  | unexpectedEndOfHexEscape
  | recursionLimitExceeded
  deriving DecidableEq, Repr

/-- The wording of each syntax fault. -/
def SyntaxCode.message : SyntaxCode → String
  | .eofWhileParsingList => "EOF while parsing a list"
  | .eofWhileParsingObject => "EOF while parsing an object"
  | .eofWhileParsingString => "EOF while parsing a string"
  | .eofWhileParsingValue => "EOF while parsing a value"
  | .expectedColon => "expected `:`"
  | .expectedListCommaOrEnd => "expected `,` or `]`"
  | .expectedObjectCommaOrEnd => "expected `,` or `\x7d`"
  | .expectedSomeIdent => "expected ident"
  | .expectedSomeValue => "expected value"
  | .invalidEscape => "invalid escape"
  | .invalidNumber => "invalid number"
  | .numberOutOfRange => "number out of range"
  | .invalidUnicodeCodePoint => "invalid unicode code point"
  | .controlCharacterWhileParsingString =>
    "control character (\\u0000-\\u001F) found while parsing a string"
  | .keyMustBeAString => "key must be a string"
  | .loneLeadingSurrogateInHexEscape => "lone leading surrogate in hex escape"
  | .trailingComma => "trailing comma"
  | .trailingCharacters => "trailing characters"
  | .unexpectedEndOfHexEscape => "unexpected end of hex escape"
  | .recursionLimitExceeded => "recursion limit exceeded"

/-- Whether the fault is that the text ended too early. -/
def SyntaxCode.isEof : SyntaxCode → Bool
  | .eofWhileParsingList | .eofWhileParsingObject | .eofWhileParsingString
  | .eofWhileParsingValue => true
  | _ => false

/-- **What went wrong:** the text is not JSON (`grammar`), or it is JSON of the wrong shape
(`data`, with its wording). -/
inductive ReadFault where
  | grammar (code : SyntaxCode)
  | data (message : String)
  deriving DecidableEq, Repr

/-- The three kinds of refusal a caller tells apart. -/
inductive FaultKind where
  | grammar
  | eof
  | data
  deriving DecidableEq, Repr

/-- The kind of a fault: early end of text, other syntax, or data. -/
def ReadFault.kind : ReadFault → FaultKind
  | .grammar c => if c.isEof then .eof else .grammar
  | .data _ => .data

/-- The wording of a fault. -/
def ReadFault.message : ReadFault → String
  | .grammar c => c.message
  | .data m => m

/-- **A refusal**: the fault and the octet offset where reading stood, `none` until a data
fault is placed. -/
structure ReadError where
  fault : ReadFault
  offset : Option Nat
  deriving DecidableEq, Repr

/-- A refusal that has no offset yet takes `i`; one with an offset keeps it. -/
def ReadError.placeAt (e : ReadError) (i : Nat) : ReadError :=
  match e.offset with
  | some _ => e
  | none => { e with offset := some i }

/-- **Line and column of an offset.** The line is one more than the newlines before the last
newline at or before the offset; the column is the number of octets after that newline. -/
def textPosition (text : List UInt8) (i : Nat) : Nat × Nat :=
  let before := text.take i
  let lineStart := (before.length - (before.reverse.takeWhile (· != 10)).length)
  let line := 1 + ((text.take lineStart).filter (· == 10)).length
  (line, i - lineStart)

/-- **The wording of a refusal**, with its place when known. -/
def ReadError.render (text : List UInt8) (e : ReadError) : String :=
  match e.offset with
  | none => e.fault.message
  | some i =>
    let (line, col) := textPosition text i
    e.fault.message ++ " at line " ++ toString line ++ " column " ++ toString col

example : textPosition [0x61, 0x0A, 0x62, 0x63] 3 = (2, 1) := by decide
example : textPosition [0x7B, 0x7D] 2 = (1, 2) := by decide

end Json

end Backoffice
