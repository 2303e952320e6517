import Backoffice.Json.Value
import Backoffice.Decimal.Shortest

/-! # Writing JSON text

Compact JSON text: no blank space, members in the order the value holds them.

* **`quoteString`** — a string between double quotes. `"` and `\` are escaped, backspace, form
  feed, newline, carriage return and tab take their one-letter escapes, the other characters
  below U+0020 are written `\u00xx` in lowercase hexadecimal, and every other character is
  written as itself (`/`, U+007F and U+2028 included).
* **`JsonNumber.render`** — whole numbers in decimal; floats by `Shortest.render`.
* **`JsonValue.render`** — the whole value. -/

namespace Backoffice

namespace Json

/-- Lowercase hexadecimal digit of a value below 16. -/
def hexChar (n : Nat) : Char :=
  if n < 10 then Char.ofNat (0x30 + n) else Char.ofNat (0x61 + n - 10)

/-- **How one character is written inside a JSON string.** -/
def escapeChar (c : Char) : List Char :=
  if c = '"' then ['\\', '"']
  else if c = '\\' then ['\\', '\\']
  else if c = '\x08' then ['\\', 'b']
  else if c = '\x0c' then ['\\', 'f']
  else if c = '\n' then ['\\', 'n']
  else if c = '\r' then ['\\', 'r']
  else if c = '\t' then ['\\', 't']
  else if c.toNat < 0x20 then ['\\', 'u', '0', '0', hexChar (c.toNat / 16), hexChar (c.toNat % 16)]
  else [c]

/-- **A string as JSON text**, quotes included. -/
def quoteString (s : String) : String :=
  String.ofList ('"' :: (s.toList.flatMap escapeChar ++ ['"']))

end Json

/-- The JSON text of a number. -/
def JsonNumber.render : JsonNumber → String
  | .posInt n => toString n
  | .negInt n => toString n
  | .float bits => Shortest.render bits

mutual

/-- **Compact JSON text of a value.** -/
def JsonValue.render : JsonValue → String
  | .null => "null"
  | .bool true => "true"
  | .bool false => "false"
  | .number n => n.render
  | .string s => Json.quoteString s
  | .array items => "[" ++ JsonValue.renderItems items ++ "]"
  | .object fields => "\x7b" ++ JsonValue.renderFields fields ++ "\x7d"

/-- Array elements separated by commas. -/
def JsonValue.renderItems : List JsonValue → String
  | [] => ""
  | [v] => v.render
  | v :: rest => v.render ++ "," ++ JsonValue.renderItems rest

/-- Object members `"key":value` separated by commas. -/
def JsonValue.renderFields : List (String × JsonValue) → String
  | [] => ""
  | [(k, v)] => Json.quoteString k ++ ":" ++ v.render
  | (k, v) :: rest => Json.quoteString k ++ ":" ++ v.render ++ "," ++ JsonValue.renderFields rest

end

end Backoffice
