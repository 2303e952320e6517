/-! # JSON values

The values that JSON text denotes, as this library reads and writes them.

* **`JsonNumber`** — a number keeps the form it was read in: a whole number that fits in 64
  unsigned bits, a negative whole number that fits in 64 signed bits, or anything else as the
  bit pattern of the nearest binary64 float. Claim sets care about the difference: only the
  first two can be a timestamp.
* **`JsonValue`** — null, booleans, numbers, strings, arrays and objects. An object is a list of
  members; objects read from text keep their keys sorted and distinct (`JsonValue.insertField`),
  the last of two equal keys winning.
* **`JsonValue.field?`** — the member under a key. -/

namespace Backoffice

/-- **A JSON number in the form it was read.** `posInt` holds `0 ≤ n < 2^64`, `negInt` holds
`-2^63 ≤ n < 0`, and `float` holds the bits of a binary64 value for every other number
(fractions, exponents, `-0` and whole numbers out of the integer ranges). -/
inductive JsonNumber where
  | posInt (n : Nat)
  | negInt (n : Int)
  | float (bits : UInt64)
  deriving DecidableEq, Repr, Inhabited

/-- **A JSON value.** Objects are member lists; see `JsonValue.insertField` for the order that
reading gives them. -/
inductive JsonValue where
  | null
  | bool (b : Bool)
  | number (n : JsonNumber)
  | string (s : String)
  | array (items : List JsonValue)
  | object (fields : List (String × JsonValue))
  deriving Repr, Inhabited

namespace JsonNumber

/-- The largest value of a signed 64-bit word. -/
def int64Max : Nat := Nat.pow 2 63 - 1

/-- **The number as a signed 64-bit integer, when it is one.** Floats never are, even when
their value is whole; unsigned values above `int64Max` are not either. -/
def toInt64? : JsonNumber → Option Int
  | .posInt n => if n ≤ int64Max then some (Int.ofNat n) else none
  | .negInt n => some n
  | .float _ => none

/-- The number for a signed 64-bit integer: non-negative ones are `posInt`. -/
def ofInt (i : Int) : JsonNumber :=
  if i < 0 then .negInt i else .posInt i.toNat

theorem toInt64?_ofInt (i : Int) (hhi : i ≤ int64Max) :
    (ofInt i).toInt64? = some i := by
  by_cases h : i < 0
  · simp [ofInt, toInt64?, h]
  · have h0 : 0 ≤ i := by omega
    have hle : i.toNat ≤ int64Max := by omega
    simp [ofInt, toInt64?, h, hle, Int.toNat_of_nonneg h0]

end JsonNumber

namespace JsonValue

/-- **Insert a member into a key-sorted member list.** An equal key is replaced, so of two
members with one key the one inserted last stays; keys compare by code point, which is the
order of their UTF-8 bytes. -/
def insertField (k : String) (v : JsonValue) :
    List (String × JsonValue) → List (String × JsonValue)
  | [] => [(k, v)]
  | (k', v') :: rest =>
    if k < k' then (k, v) :: (k', v') :: rest
    else if k = k' then (k, v) :: rest
    else (k', v') :: insertField k v rest

/-- The member under key `k` of a member list, if any. -/
def lookup (k : String) : List (String × JsonValue) → Option JsonValue
  | [] => none
  | (k', v) :: rest => if k = k' then some v else lookup k rest

/-- The member under key `k` of an object, and `none` for every other value. -/
def field? (k : String) : JsonValue → Option JsonValue
  | .object fs => lookup k fs
  | _ => none

/-- The string inside a string value. -/
def str? : JsonValue → Option String
  | .string s => some s
  | _ => none

theorem lookup_insertField_self (k : String) (v : JsonValue) (fs : List (String × JsonValue)) :
    lookup k (insertField k v fs) = some v := by
  induction fs with
  | nil => simp [insertField, lookup]
  | cons p rest ih =>
    obtain ⟨k', v'⟩ := p
    unfold insertField
    by_cases h1 : k < k'
    · simp [h1, lookup]
    · by_cases h2 : k = k'
      · simp [h2, lookup]
      · simp [h1, h2, lookup, ih]

end JsonValue

end Backoffice
