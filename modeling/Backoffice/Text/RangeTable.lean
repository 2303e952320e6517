/-! # Tables of code point ranges

A character property given as sorted, disjoint, inclusive ranges of code points.

* **`RangeTable.ofText`** — a table from its written form: ranges `lo-hi` or single points `lo`,
  in hexadecimal, separated by commas, in increasing order.
* **`RangeTable.contains`** — membership by binary search. -/

namespace Backoffice

/-- **A set of code points** as sorted, disjoint, inclusive ranges. -/
structure RangeTable where
  ranges : Array (Nat × Nat)

namespace RangeTable

/-- The value of a lowercase hexadecimal digit character. -/
def hexValue (c : Char) : Nat :=
  if '0' ≤ c ∧ c ≤ '9' then c.toNat - '0'.toNat
  else if 'a' ≤ c ∧ c ≤ 'f' then c.toNat - 'a'.toNat + 10
  else 0

/-- A hexadecimal numeral. -/
def hexNumber (s : List Char) : Nat := s.foldl (fun acc c => acc * 16 + hexValue c) 0

/-- One written range: `lo-hi` or a single point. -/
def parseRange (item : List Char) : Nat × Nat :=
  match item.splitOn '-' with
  | [a, b] => (hexNumber a, hexNumber b)
  | _ => (hexNumber item, hexNumber item)

/-- **The table written in `text`.** -/
def ofText (text : String) : RangeTable :=
  ⟨((text.toList.splitOn ',').filter (· ≠ [])).map parseRange |>.toArray⟩

/-- Binary search for `n` among `ranges[lo:hi]`. -/
def search (ranges : Array (Nat × Nat)) (n : Nat) (lo hi : Nat) : Bool :=
  if _h : lo < hi then
    let mid := (lo + hi) / 2
    match ranges[mid]? with
    | none => false
    | some (a, b) =>
      if n < a then search ranges n lo mid
      else if b < n then search ranges n (mid + 1) hi
      else true
  else false
termination_by hi - lo

/-- **Whether a code point lies in the table.** -/
def contains (t : RangeTable) (n : Nat) : Bool := search t.ranges n 0 t.ranges.size

end RangeTable

end Backoffice
