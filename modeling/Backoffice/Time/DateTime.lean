import Backoffice.Text.WhiteSpace

/-! # Dates and times of day

A date and time of day in the proleptic Gregorian calendar, without a time zone, to the
nanosecond, with room for a leap second at the end of any minute.

* **`DateTime`** — whole seconds since 1970-01-01 00:00:00 and a fraction in nanoseconds; a
  fraction of a second or more is the leap second after second 59.
* **`daysFromCivil`**, **`civilFromDays`** — day numbers and calendar dates, both ways, by
  counting 400-year eras of 146097 days from 0000-03-01.
* **`DateTime.parse?`** — the text `YYYY-MM-DDTHH:MM:SS` with its lenient corners: `T`, `t` or
  a space between date and time, one to four digits of year or a signed year of any length, one
  or two digits for the other fields, white space before each field and at the end, a second
  60, and up to nine digits of fraction (more are read and dropped).
* **`DateTime.render`** — the date, a separator, and the time with its fraction in groups of
  three digits; a year outside 0 to 9999 is written with its sign. -/

namespace Backoffice

/-- **A date and time of day**: whole seconds since 1970-01-01 00:00:00, and nanoseconds past
them. From `10^9` nanoseconds on, the time is in the leap second after second 59. -/
structure DateTime where
  seconds : Int
  nanos : Nat
  deriving DecidableEq, Repr, Ord

namespace DateTime

/-- Seconds in a day. -/
def secondsPerDay : Int := 86400

/-- **The day number of a date**, 1970-01-01 being day 0. -/
def daysFromCivil (y : Int) (m d : Nat) : Int :=
  let y := if m ≤ 2 then y - 1 else y
  let era := y.fdiv 400
  let yoe := y - era * 400
  let mp : Int := if m > 2 then m - 3 else m + 9
  let doy := (153 * mp + 2) / 5 + d - 1
  let doe := yoe * 365 + yoe / 4 - yoe / 100 + doy
  era * 146097 + doe - 719468

/-- **The date of a day number**: year, month and day. -/
def civilFromDays (z : Int) : Int × Nat × Nat :=
  let z := z + 719468
  let era := z.fdiv 146097
  let doe := z - era * 146097
  let yoe := (doe - doe / 1460 + doe / 36524 - doe / 146096) / 365
  let y := yoe + era * 400
  let doy := doe - (365 * yoe + yoe / 4 - yoe / 100)
  let mp := (5 * doy + 2) / 153
  let d := doy - (153 * mp + 2) / 5 + 1
  let m := if mp < 10 then mp + 3 else mp - 9
  ((if m ≤ 2 then y + 1 else y), m.toNat, d.toNat)

/-- Whether a year is a leap year. -/
def isLeap (y : Int) : Bool := (y % 4 == 0 && y % 100 != 0) || y % 400 == 0

/-- The number of days in a month. -/
def monthLength (y : Int) (m : Nat) : Nat :=
  match m with
  | 2 => if isLeap y then 29 else 28
  | 4 | 6 | 9 | 11 => 30
  | _ => 31

/-- Nanoseconds in a second. -/
def nanosPerSecond : Nat := 1000000000

/-- The first year of the calendar. -/
def firstYear : Int := -262143

/-- The last year of the calendar. -/
def lastYear : Int := 262142

/-- **A date and time from its parts**, if they name one. Second 60 is the leap second, kept as
second 59 with a second's worth of nanoseconds added. -/
def ofParts? (y : Int) (mo d h mi s : Nat) (nanos : Nat) : Option DateTime :=
  if firstYear ≤ y ∧ y ≤ lastYear ∧ 1 ≤ mo ∧ mo ≤ 12 ∧ 1 ≤ d ∧ d ≤ monthLength y mo ∧
      h < 24 ∧ mi < 60 ∧ s ≤ 60 ∧ nanos < nanosPerSecond then
    let (s, nanos) := if s = 60 then (59, nanos + nanosPerSecond) else (s, nanos)
    some ⟨daysFromCivil y mo d * secondsPerDay + h * 3600 + mi * 60 + s, nanos⟩
  else none

/-- The value of a list of decimal digits. -/
def digitsValue (cs : List Char) : Nat :=
  cs.foldl (fun acc c => acc * 10 + (c.toNat - 48)) 0

/-- **A field of one to `width` digits** after white space, and the text after it. -/
def field? (width : Nat) (cs : List Char) : Option (Nat × List Char) :=
  let cs := cs.dropWhile Text.isWhiteSpace
  let ds := (cs.take width).takeWhile Char.isDigit
  if ds.isEmpty then none else some (digitsValue ds, cs.drop ds.length)

/-- **A year** after white space: a sign and any number of digits, or one to four digits. -/
def yearField? (cs : List Char) : Option (Int × List Char) :=
  match cs.dropWhile Text.isWhiteSpace with
  | '-' :: rest =>
    let ds := rest.takeWhile Char.isDigit
    if ds.isEmpty then none else some (-(digitsValue ds : Int), rest.drop ds.length)
  | '+' :: rest =>
    let ds := rest.takeWhile Char.isDigit
    if ds.isEmpty then none else some (digitsValue ds, rest.drop ds.length)
  | cs => (field? 4 cs).map fun (n, rest) => ((n : Int), rest)

/-- **A literal character** after white space, and the text after it. -/
def literal? (c : Char) (cs : List Char) : Option (List Char) :=
  match cs.dropWhile Text.isWhiteSpace with
  | d :: rest => if d = c then some rest else none
  | [] => none

/-- **An optional fraction of a second**: a point and one to nine digits, scaled to nanoseconds;
digits past the ninth are read and dropped. -/
def fraction? (cs : List Char) : Option (Nat × List Char) :=
  match cs with
  | '.' :: rest =>
    let ds := (rest.take 9).takeWhile Char.isDigit
    if ds.isEmpty then none
    else
      some (digitsValue ds * Nat.pow 10 (9 - ds.length),
        (rest.drop ds.length).dropWhile Char.isDigit)
  | _ => some (0, cs)

/-- **Read `YYYY-MM-DDTHH:MM:SS`**, leniently as the module header says. -/
def parse? (s : String) : Option DateTime := do
  let (y, cs) ← yearField? s.toList
  let cs ← literal? '-' cs
  let (mo, cs) ← field? 2 cs
  let cs ← literal? '-' cs
  let (d, cs) ← field? 2 cs
  let cs ← match cs with
    | c :: rest => if c = ' ' ∨ c = 'T' ∨ c = 't' then some rest else none
    | [] => none
  let (h, cs) ← field? 2 cs
  let cs ← literal? ':' cs
  let (mi, cs) ← field? 2 cs
  let cs ← literal? ':' cs
  let (sec, cs) ← field? 2 cs
  let (nanos, cs) ← fraction? cs
  if (cs.dropWhile Text.isWhiteSpace).isEmpty then ofParts? y mo d h mi sec nanos else none

/-- A number with at least `width` digits, zeros in front. -/
def padded (width : Nat) (n : Nat) : String :=
  let t := toString n
  String.ofList (List.replicate (width - t.length) '0') ++ t

/-- The text of a year: four digits, or its sign and at least four digits outside 0 to 9999. -/
def yearText (y : Int) : String :=
  if 0 ≤ y ∧ y ≤ 9999 then padded 4 y.toNat
  else (if y < 0 then "-" else "+") ++ padded 4 y.natAbs

/-- The fraction of a second: nothing when zero, else a point and three, six or nine digits,
the fewest that hold it. -/
def fractionText (n : Nat) : String :=
  if n = 0 then ""
  else if n % 1000000 = 0 then "." ++ padded 3 (n / 1000000)
  else if n % 1000 = 0 then "." ++ padded 6 (n / 1000)
  else "." ++ padded 9 n

/-- **The text of a date and time**, the date and the time joined by `sep`; the leap second is
second 60. -/
def render (sep : Char) (t : DateTime) : String :=
  let days := t.seconds.fdiv secondsPerDay
  let secs := (t.seconds - days * secondsPerDay).toNat
  let (y, m, d) := civilFromDays days
  let leap := if nanosPerSecond ≤ t.nanos then 1 else 0
  yearText y ++ "-" ++ padded 2 m ++ "-" ++ padded 2 d ++ String.singleton sep ++
    padded 2 (secs / 3600) ++ ":" ++ padded 2 (secs / 60 % 60) ++ ":" ++
    padded 2 (secs % 60 + leap) ++ fractionText (t.nanos % nanosPerSecond)

/-- One second later. -/
def tick (t : DateTime) : DateTime := ⟨t.seconds + 1, t.nanos⟩

/-- 2025-01-01 00:00:00. -/
def newYear2025 : DateTime := ⟨1735689600, 0⟩

example : (parse? "2025-01-01T00:00:00") = some newYear2025 := by decide +kernel

end DateTime

end Backoffice
