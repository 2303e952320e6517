/-! # Media types

Reading a `Content-Type` value far enough to tell JSON from anything else.

* **`MediaType.parse?`** — a type of token characters, `/`, a subtype of token characters whose
  last `+` starts a suffix, then parameters `; name=value` (a value a token or a quoted
  string, spaces allowed before a name and after a quoted value). Letters are compared without
  case.
* **`isJson`** — the type is `application` and the subtype `json` or the suffix `json`. -/

namespace Backoffice

namespace Http

/-- **A media type**: type, subtype and suffix, lowercase. -/
structure MediaType where
  type : String
  subtype : String
  suffix : Option String
  deriving DecidableEq, Repr

/-- A token character of a media type. -/
def isTokenChar (c : Char) : Bool :=
  c.toNat < 0x80 && (c.isAlphanum || "!#$%&'*+-.^_\x60|~".toList.contains c)

/-- A character allowed inside a quoted parameter value. -/
def isQuotedChar (c : Char) : Bool := c.toNat > 31 && c.toNat != 127

/-- Whether the parameters after a `;` are well formed: each a name of token characters, `=`,
and a value. A value is a run of token characters ended by `;` (then not empty) or by the end,
or a quoted string: its first character may be anything allowed, itself a quote included, and
the next quote closes it; spaces may follow it. Spaces may stand before a name. -/
def paramsOk : Nat → List Char → Bool
  | 0, _ => false
  | _, [] => true
  | fuel + 1, ' ' :: rest => paramsOk fuel rest
  | fuel + 1, cs =>
    let name := cs.takeWhile isTokenChar
    match cs.drop name.length with
    | '=' :: afterEq =>
      if name.isEmpty then false
      else
        match afterEq with
        | '"' :: [] => false
        | '"' :: first :: q =>
          let inner := q.takeWhile fun c => c != '"' && isQuotedChar c
          match isQuotedChar first, q.drop inner.length with
          | true, '"' :: afterQuote =>
            match afterQuote.dropWhile (· == ' ') with
            | [] => true
            | ';' :: more => paramsOk fuel more
            | _ => false
          | _, _ => false
        | _ =>
          let value := afterEq.takeWhile isTokenChar
          match afterEq.drop value.length with
          | [] => true
          | ';' :: more => !value.isEmpty && paramsOk fuel more
          | _ => false
    | _ => false

/-- **Read a media type.** -/
def MediaType.parse? (s : String) : Option MediaType :=
  let cs := s.toList
  let type := cs.takeWhile isTokenChar
  match cs.drop type.length with
  | '/' :: rest =>
    if type.isEmpty then none
    else
      let sub := rest.takeWhile isTokenChar
      let after := rest.drop sub.length
      let paramsFine := match after with
        | [] => true
        | ';' :: more => !sub.isEmpty && paramsOk (more.length + 1) more
        | _ => false
      if !paramsFine then none
      else
        let lower := fun (xs : List Char) => (String.ofList xs).toLower
        -- the suffix starts at the last plus sign that is not the first character
        let plusAt := ((sub.zipIdx.filter fun (c, i) => c == '+' && i > 0).getLast?).map Prod.snd
        match plusAt with
        | some p => some ⟨lower type, lower (sub.take p), some (lower (sub.drop (p + 1)))⟩
        | none => some ⟨lower type, lower sub, none⟩
  | _ => none

/-- **Whether a media type is JSON.** -/
def MediaType.isJson (m : MediaType) : Bool :=
  m.type == "application" && (m.subtype == "json" || m.suffix == some "json")

end Http

end Backoffice
