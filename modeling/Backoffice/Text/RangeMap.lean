import Backoffice.Text.RangeTable

/-! # Tables of values over code points

Character data given as values over runs of code points, or as values at single keys.

* **`RangeMap`** — sorted run starts, each with a value that holds up to the next start;
  **`RangeMap.find`** gives the value of the run holding a code point.
* **`KeyTable`** — sorted keys with values; **`KeyTable.get?`** finds a key by binary search.

Both are read from a written form: items separated by commas, each a hexadecimal key, a colon
and the written value. -/

namespace Backoffice

/-- **Values over runs of code points**: `starts` increasing, `values` of equal length. -/
structure RangeMap (α : Type) where
  starts : Array Nat
  values : Array α

/-- **Values at single keys**, the keys increasing. -/
structure KeyTable (α : Type) where
  keys : Array Nat
  values : Array α

/-- The written items of a table: key and written value. -/
def tableItems (text : String) : List (Nat × String) :=
  ((text.splitOn ",").filter (· ≠ "")).map fun item =>
    match item.splitOn ":" with
    | [k, v] => (RangeTable.hexNumber k.toList, v)
    | _ => (0, "")

namespace RangeMap

/-- **The map written in `text`**, each value read by `parse`. -/
def ofText {α : Type} (parse : String → α) (text : String) : RangeMap α :=
  let items := tableItems text
  ⟨(items.map Prod.fst).toArray, (items.map fun (_, v) => parse v).toArray⟩

/-- The last index in `[lo, hi)` whose start is at most `n`, given that `lo`'s is. -/
def lastAtMost (starts : Array Nat) (n : Nat) (lo hi : Nat) : Nat :=
  if _h : lo + 1 < hi then
    let mid := (lo + hi) / 2
    if starts.getD mid 0 ≤ n then lastAtMost starts n mid hi else lastAtMost starts n lo mid
  else lo
termination_by hi - lo

/-- **The value of the run holding `n`**, or `default` before the first run. -/
def find {α : Type} (m : RangeMap α) (default : α) (n : Nat) : α :=
  if m.starts.getD 0 0 ≤ n ∧ 0 < m.starts.size then
    m.values.getD (lastAtMost m.starts n 0 m.starts.size) default
  else default

end RangeMap

namespace KeyTable

/-- **The table written in `text`**, each value read by `parse`. -/
def ofText {α : Type} (parse : String → α) (text : String) : KeyTable α :=
  let items := tableItems text
  ⟨(items.map Prod.fst).toArray, (items.map fun (_, v) => parse v).toArray⟩

/-- **The value at key `k`**, if it is in the table. -/
def get? {α : Type} (t : KeyTable α) (k : Nat) : Option α :=
  if 0 < t.keys.size ∧ t.keys.getD 0 0 ≤ k then
    let i := RangeMap.lastAtMost t.keys k 0 t.keys.size
    if t.keys.getD i 0 = k then t.values[i]? else none
  else none

end KeyTable

/-- Code points written in hexadecimal, separated by dots. -/
def codePointsOfText (s : String) : List Nat :=
  ((s.splitOn ".").filter (· ≠ "")).map fun h => RangeTable.hexNumber h.toList

end Backoffice
