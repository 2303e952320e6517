import Backoffice.Crypto.Blowfish
import Backoffice.Codec.Base64
import Backoffice.Text.Integer

/-! # Password hashing with bcrypt

The bcrypt password hash: a Blowfish key schedule made expensive by a cost, then a fixed text
encrypted with it.

* **`digest`** — the password with a NUL appended and cut to 72 octets, the salted schedule,
  then 2^cost rounds of the schedule with the password and with the salt; the text
  `OrpheanBeholderScryDoubt` encrypted 64 times gives 24 octets, of which 23 are kept.
* **`hashWithSalt`** — `$2b$`, the cost in two digits, `$`, the salt and the digest in the
  password-hash alphabet without padding. The cost must lie between 4 and 31.
* **`verify`** — a stored hash taken apart (its `$`-separated non-empty parts: a known prefix,
  a decimal cost, and 22 salt and 31 digest symbols), the password hashed with its salt and
  cost, and the two digests compared. -/

namespace Backoffice

namespace Bcrypt

/-- **Why a password cannot be hashed or checked.** -/
inductive BcryptError where
  | costNotAllowed (cost : Nat)
  | invalidCost (text : String)
  | invalidPrefix (text : String)
  | invalidHash (text : String)
  | invalidSaltLength (length : Nat)
  | invalidBase64 (cause : Base64.DecodeError)
  deriving DecidableEq, Repr

/-- The least cost. -/
def minCost : Nat := 4

/-- The greatest cost. -/
def maxCost : Nat := 31

/-- The wording of a bcrypt fault. -/
def BcryptError.message : BcryptError → String
  | .costNotAllowed c =>
    "Cost needs to be between " ++ toString minCost ++ " and " ++ toString maxCost ++ ", got " ++
      toString c
  | .invalidCost t => "Invalid Cost: " ++ t
  | .invalidPrefix t => "Invalid Prefix: " ++ t
  | .invalidHash t => "Invalid hash: " ++ t
  | .invalidSaltLength n => "Invalid salt len: " ++ toString n
  | .invalidBase64 e => "Base64 error: " ++ e.message

/-- The text that is encrypted: `OrpheanBeholderScryDoubt` as six words. -/
def magic : List (UInt32 × UInt32) :=
  [(0x4f727068, 0x65616e42), (0x65686f6c, 0x64657253), (0x63727944, 0x6f756274)]

/-- `n` rounds of the schedule with the key and then the salt. -/
def costRounds (salt key : Array UInt8) : Nat → Blowfish → Blowfish
  | 0, b => b
  | n + 1, b => costRounds salt key n ((b.expandKey key).expandKey salt)

/-- Encrypt a block `n` times. -/
def encryptTimes (b : Blowfish) : Nat → UInt32 × UInt32 → UInt32 × UInt32
  | 0, block => block
  | n + 1, block => encryptTimes b n (b.encrypt block)

/-- The four octets of a word, highest first. -/
def wordOctets (w : UInt32) : List UInt8 :=
  [(w >>> 24).toUInt8, (w >>> 16).toUInt8, (w >>> 8).toUInt8, w.toUInt8]

/-- The password as hashed: its octets and a NUL, at most 72 octets. -/
def keyOf (password : List UInt8) : Array UInt8 := ((password ++ [0]).take 72).toArray

/-- **The 23-octet digest** of a password under a salt and cost. -/
def digest (cost : Nat) (salt : List UInt8) (password : List UInt8) : List UInt8 :=
  let key := keyOf password
  let saltArr := salt.toArray
  let b := costRounds saltArr key (Nat.pow 2 cost) (Blowfish.initial.expandSaltedKey saltArr key)
  (magic.flatMap fun block =>
    let (l, r) := encryptTimes b 64 block
    wordOctets l ++ wordOctets r).take 23

/-- A number in two digits at least. -/
def twoDigits (n : Nat) : String := (if n < 10 then "0" else "") ++ toString n

/-- **Hash a password** with a 16-octet salt. -/
def hashWithSalt (password : List UInt8) (cost : Nat) (salt : List UInt8) :
    Except BcryptError String :=
  if cost < minCost ∨ cost > maxCost then .error (.costNotAllowed cost)
  else
    .ok ("$2b$" ++ twoDigits cost ++ "$" ++ Base64.encode .crypt salt ++
      Base64.encode .crypt (digest cost salt password))

/-- **The parts of a stored hash**: cost, salt symbols and digest symbols. -/
def splitHash (hash : String) : Except BcryptError (Nat × List UInt8 × List UInt8) :=
  match ((hash.split '$').toList.map String.Slice.copy).filter (· ≠ "") with
  | [pre, costText, rest] =>
    if !(["2y", "2b", "2a", "2x"].contains pre) then .error (.invalidPrefix pre)
    else
      match Text.readUnsigned 32 costText with
      | .error _ => .error (.invalidCost costText)
      | .ok cost =>
        let octets := rest.toUTF8.toList
        -- the salt must end between two characters
        let boundary := (octets.getD 22 0) < 0x80 || (octets.getD 22 0) ≥ 0xC0
        if octets.length = 53 ∧ boundary then .ok (cost, octets.take 22, octets.drop 22)
        else .error (.invalidHash hash)
  | _ => .error (.invalidHash hash)

/-- **Check a password** against a stored hash. -/
def verify (password : List UInt8) (hash : String) : Except BcryptError Bool := do
  let (cost, saltText, digestText) ← splitHash hash
  let salt ← (Base64.decode .crypt saltText).mapError .invalidBase64
  if salt.length ≠ 16 then throw (.invalidSaltLength salt.length)
  if cost < minCost ∨ cost > maxCost then throw (.costNotAllowed cost)
  let stored ← (Base64.decode .crypt digestText).mapError .invalidBase64
  pure (stored == digest cost salt password)

end Bcrypt

end Backoffice
