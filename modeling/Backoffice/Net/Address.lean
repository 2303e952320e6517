/-! # Internet addresses

IPv4 and IPv6 addresses and socket addresses (an address with a port), read from and written
to text.

* **`Ipv4`**, **`Ipv6`**, **`IpAddress`**, **`SocketAddress`** — the addresses themselves.
* **`IpAddress.parse?`**, **`SocketAddress.parse?`** — the whole text must be one address.
  An IPv4 address is four dotted decimal parts of at most three digits each, below 256, with no
  leading zero. An IPv6 address is up to eight colon-separated groups of one to four hex digits,
  one `::` standing for one or more zero groups, and the last two groups may be written as an
  IPv4 address (never before the `::`). A socket address is `a.b.c.d:port` or
  `[ipv6]:port`, the IPv6 form optionally with a decimal scope `%n` inside the brackets.
* **`Ipv6.render`** — the canonical text: lowercase hex without leading zeros, the
  first longest run of two or more zero groups written `::`, and an IPv4-mapped address written
  `::ffff:a.b.c.d`. -/

namespace Backoffice

namespace Net

/-- **An IPv4 address**: four octets, most significant first. -/
structure Ipv4 where
  octets : List Nat
  deriving DecidableEq, Repr

/-- **An IPv6 address**: eight 16-bit groups, most significant first. -/
structure Ipv6 where
  groups : List Nat
  deriving DecidableEq, Repr

/-- **An IP address** of either family. -/
inductive IpAddress where
  | v4 (a : Ipv4)
  | v6 (a : Ipv6)
  deriving DecidableEq, Repr

/-- **A socket address**: an IP address with a port, and an IPv6 scope. -/
inductive SocketAddress where
  | v4 (a : Ipv4) (port : Nat)
  | v6 (a : Ipv6) (port : Nat) (scope : Nat)
  deriving DecidableEq, Repr

/-- A reader of a prefix of a text: the value and what is left, or nothing. -/
abbrev Reader (α : Type) := List Char → Option (α × List Char)

/-- The value of a digit in base `radix` (at most 16). -/
def digitIn (radix : Nat) (c : Char) : Option Nat :=
  let n := c.toNat
  let v :=
    if 0x30 ≤ n ∧ n ≤ 0x39 then some (n - 0x30)
    else if 0x61 ≤ n ∧ n ≤ 0x66 then some (n - 0x61 + 10)
    else if 0x41 ≤ n ∧ n ≤ 0x46 then some (n - 0x41 + 10)
    else none
  v.filter (· < radix)

/-- The longest run of digits in base `radix` at the front of a text, and the rest. -/
def digitRun (radix : Nat) : List Char → List Nat × List Char
  | [] => ([], [])
  | c :: rest =>
    match digitIn radix c with
    | none => ([], c :: rest)
    | some d => let (ds, r) := digitRun radix rest; (d :: ds, r)

/-- **A number**: all the digits in front, refused if there are none, if there are more than
`maxDigits`, if the value exceeds `limit`, or, unless `zeroPrefix`, if it has a leading zero
and more than one digit. -/
def readNumber (radix : Nat) (maxDigits : Option Nat) (zeroPrefix : Bool) (limit : Nat) :
    Reader Nat := fun cs =>
  let (ds, rest) := digitRun radix cs
  let value := ds.foldl (fun acc d => acc * radix + d) 0
  let tooLong := match maxDigits with | some m => ds.length > m | none => false
  -- a value past the limit is refused even when later digits would be refused too
  let exceeds := (ds.zipIdx.any fun (_, i) =>
    (ds.take (i + 1)).foldl (fun acc d => acc * radix + d) 0 > limit)
  if ds.isEmpty || tooLong || exceeds then none
  else if !zeroPrefix && ds.head? == some 0 && ds.length > 1 then none
  else some (value, rest)

/-- One given character. -/
def readChar (c : Char) : Reader Unit
  | d :: rest => if c == d then some ((), rest) else none
  | [] => none

/-- **An IPv4 address** at the front of a text. -/
def readIpv4 : Reader Ipv4 := fun cs => do
  let (a, cs) ← readNumber 10 (some 3) false 255 cs
  let ((), cs) ← readChar '.' cs
  let (b, cs) ← readNumber 10 (some 3) false 255 cs
  let ((), cs) ← readChar '.' cs
  let (c, cs) ← readNumber 10 (some 3) false 255 cs
  let ((), cs) ← readChar '.' cs
  let (d, cs) ← readNumber 10 (some 3) false 255 cs
  pure (⟨[a, b, c, d]⟩, cs)

/-- **Colon-separated groups** at the front of a text, at most `limit` of them: the groups
read, whether the last two came from an IPv4 address, and the rest. A group is preceded by a
colon unless it is the first (`index` 0). -/
def readGroups : Nat → Nat → List Char → List Nat × Bool × List Char
  | 0, _, cs => ([], false, cs)
  | limit + 1, index, cs =>
    let sep : List Char → Option (List Char) := fun cs =>
      if index = 0 then some cs else (readChar ':' cs).map Prod.snd
    let asIpv4 : Option (Ipv4 × List Char) :=
      if limit ≥ 1 then (sep cs).bind readIpv4 else none
    match asIpv4 with
    | some (⟨os⟩, rest) =>
      let o := fun i => os.getD i 0
      ([o 0 * 256 + o 1, o 2 * 256 + o 3], true, rest)
    | none =>
      match (sep cs).bind (readNumber 16 (some 4) true 0xFFFF) with
      | none => ([], false, cs)
      | some (g, rest) =>
        let (gs, v4, rest') := readGroups limit (index + 1) rest
        (g :: gs, v4, rest')

/-- **An IPv6 address** at the front of a text. -/
def readIpv6 : Reader Ipv6 := fun cs =>
  let (head, headV4, rest) := readGroups 8 0 cs
  if head.length = 8 then some (⟨head⟩, rest)
  else if headV4 then none
  else do
    let ((), rest) ← readChar ':' rest
    let ((), rest) ← readChar ':' rest
    let (tail, _, rest) := readGroups (8 - (head.length + 1)) 0 rest
    pure (⟨head ++ List.replicate (8 - head.length - tail.length) 0 ++ tail⟩, rest)

/-- **An IP address** at the front of a text: IPv4 first, then IPv6. -/
def readIp : Reader IpAddress := fun cs =>
  match readIpv4 cs with
  | some (a, rest) => some (.v4 a, rest)
  | none => (readIpv6 cs).map fun (a, rest) => (.v6 a, rest)

/-- A colon and a port. -/
def readPort : Reader Nat := fun cs => do
  let ((), cs) ← readChar ':' cs
  readNumber 10 none true 0xFFFF cs

/-- **A socket address** at the front of a text. -/
def readSocket : Reader SocketAddress := fun cs =>
  let v4 : Option (SocketAddress × List Char) := do
    let (a, cs) ← readIpv4 cs
    let (p, cs) ← readPort cs
    pure (.v4 a p, cs)
  match v4 with
  | some r => some r
  | none => do
    let ((), cs) ← readChar '[' cs
    let (a, cs) ← readIpv6 cs
    let (scope, cs) :=
      match (readChar '%' cs).bind fun ((), r) => readNumber 10 none true 0xFFFFFFFF r with
      | some (s, r) => (s, r)
      | none => (0, cs)
    let ((), cs) ← readChar ']' cs
    let (p, cs) ← readPort cs
    pure (.v6 a p scope, cs)

/-- The whole text read by `r`, nothing left over. -/
def whole {α : Type} (r : Reader α) (s : String) : Option α :=
  match r s.toList with
  | some (a, []) => some a
  | _ => none

/-- **Read an IP address**, the whole text. -/
def IpAddress.parse? (s : String) : Option IpAddress := whole readIp s

/-- **Read a socket address**, the whole text. -/
def SocketAddress.parse? (s : String) : Option SocketAddress := whole readSocket s

/-- The dotted text of an IPv4 address. -/
def Ipv4.render (a : Ipv4) : String := ".".intercalate (a.octets.map toString)

/-- Lowercase hex digits of a number, without leading zeros. -/
def hexText (n : Nat) : String := String.ofList (Nat.toDigits 16 n)

/-- The first longest run of two or more zero groups: its start and length. -/
def zeroRun (gs : List Nat) : Option (Nat × Nat) :=
  let step := fun (acc : (Nat × Nat) × (Nat × Nat)) (gi : Nat × Nat) =>
    let ((bestStart, bestLen), (curStart, curLen)) := acc
    let (g, i) := gi
    if g == 0 then
      let cur := if curLen == 0 then (i, 1) else (curStart, curLen + 1)
      (if cur.2 > bestLen then cur else (bestStart, bestLen), cur)
    else ((bestStart, bestLen), (0, 0))
  let ((start, len), _) := gs.zipIdx.foldl step ((0, 0), (0, 0))
  if len > 1 then some (start, len) else none

/-- **The canonical text of an IPv6 address.** -/
def Ipv6.render (a : Ipv6) : String :=
  let gs := a.groups
  let part := fun (xs : List Nat) => ":".intercalate (xs.map hexText)
  if gs.take 6 == [0, 0, 0, 0, 0, 0xFFFF] then
    let g := fun i => gs.getD i 0
    "::ffff:" ++ Ipv4.render ⟨[g 6 / 256, g 6 % 256, g 7 / 256, g 7 % 256]⟩
  else
    match zeroRun gs with
    | some (start, len) => part (gs.take start) ++ "::" ++ part (gs.drop (start + len))
    | none => part gs

/-- The text of a socket address. -/
def SocketAddress.render : SocketAddress → String
  | .v4 a p => a.render ++ ":" ++ toString p
  | .v6 a p scope =>
    "[" ++ a.render ++ (if scope = 0 then "" else "%" ++ toString scope) ++ "]:" ++ toString p

/-- The loopback address `127.0.0.1` at port 8080. -/
def SocketAddress.localDefault : SocketAddress := .v4 ⟨[127, 0, 0, 1]⟩ 8080

end Net

end Backoffice
