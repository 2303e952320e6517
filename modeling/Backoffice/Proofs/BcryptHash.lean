import Backoffice.Proofs.TokenVerification
import Backoffice.User.Accounts

/-! # Reading back a bcrypt hash

A hash that bcrypt writes is one that it reads: the `$`-separated parts of
`$2b$<cost>$<salt><digest>` are the prefix, the cost in two digits and the 53 symbols of salt and
digest, none of them holding a `$`, and the salt and the digest decode back to their octets. So
checking a password against a written hash never fails: it compares the password's digest with
the one written (`verify_hashWithSalt`), and accepts the password that was hashed. -/

namespace Backoffice

namespace Base64

/-- The alphabet of password hashes is lawful. -/
theorem Alphabet.crypt_lawful : Alphabet.crypt.Lawful := by
  -- the symbols are checked one by one as a Boolean fold, which evaluates in small steps
  have hascii : Alphabet.crypt.symbols.all (fun c => decide (c.toNat < 128)) = true := by decide
  exact ⟨by decide, fun c hc => by simpa using List.all_eq_true.mp hascii c hc, by decide,
    by decide⟩

variable {a : Alphabet}

/-- Every octet of a written text is an ASCII symbol's. -/
theorem lt_of_mem_encode (ha : a.Lawful) (bs : List UInt8) :
    ∀ b ∈ (encode a bs).toUTF8.toList, b.toNat < 128 := by
  obtain ⟨body, last, htext, -⟩ := encode_split ha bs
  intro b hb
  rw [htext] at hb
  obtain ⟨v, -, rfl⟩ := List.mem_map.mp hb
  rw [Alphabet.toNat_octet ha]
  exact Alphabet.symbol_lt ha v

/-- **The length of a written text**: four symbols for each group of three octets, and two or
three for a last group of one or two. -/
theorem length_encode (ha : a.Lawful) :
    ∀ bs : List UInt8, (encode a bs).toUTF8.toList.length = (4 * bs.length + 2) / 3
  | x :: y :: z :: rest => by
    rw [encode_cons_cons_cons ha, List.length_append, List.length_map, length_encode ha rest]
    simp only [groupValues, List.length_cons, List.length_nil]
    omega
  | [] => by simp [encode]
  | [x] => by
    rw [encode_short ha (by simp), List.length_map, length_groupValues (by simp) (by simp)]
    simp
  | [x, y] => by
    rw [encode_short ha (by simp), List.length_map, length_groupValues (by simp) (by simp)]
    simp

end Base64

namespace Bcrypt

theorem length_digest (cost : Nat) (salt password : List UInt8) :
    (digest cost salt password).length = 23 := by
  simp [digest, magic, wordOctets]

/-- An allowed cost is read back from its two digits. -/
theorem readUnsigned_twoDigits : ∀ c, minCost ≤ c → c ≤ maxCost →
    Text.readUnsigned 32 (twoDigits c) = .ok c := by
  decide

theorem twoDigits_safe : ∀ c, c ≤ maxCost → '$' ∉ (twoDigits c).toList ∧ twoDigits c ≠ "" := by
  decide

theorem dollar_not_mem_encode (bs : List UInt8) : '$' ∉ (Base64.encode .crypt bs).toList :=
  fun h => absurd (SigningKey.mem_encode (by decide) bs '$' h) (by decide)

/-- **The parts of a written hash**: its cost, and the octets of its salt and digest symbols. -/
theorem splitHash_written {cost : Nat} (hlo : minCost ≤ cost) (hhi : cost ≤ maxCost)
    {salt : List UInt8} (hsalt : salt.length = 16) (password : List UInt8) :
    splitHash ("$2b$" ++ twoDigits cost ++ "$" ++ Base64.encode .crypt salt ++
        Base64.encode .crypt (digest cost salt password)) =
      .ok (cost, (Base64.encode .crypt salt).toUTF8.toList,
        (Base64.encode .crypt (digest cost salt password)).toUTF8.toList) := by
  set S := Base64.encode .crypt salt
  set D := Base64.encode .crypt (digest cost salt password)
  obtain ⟨hcd, hcne⟩ := twoDigits_safe cost hhi
  have hSlen : S.toUTF8.toList.length = 22 := by
    rw [Base64.length_encode Base64.Alphabet.crypt_lawful, hsalt]
  have hDlen : D.toUTF8.toList.length = 31 := by
    rw [Base64.length_encode Base64.Alphabet.crypt_lawful, length_digest]
  -- the hash is its four runs joined by `$`, none of which holds one
  have hjoin : ("$2b$" ++ twoDigits cost ++ "$" ++ S ++ D).toList =
      ['$'].intercalate [[], ['2', 'b'], (twoDigits cost).toList, (S ++ D).toList] := by
    simp [List.intercalate]
  have hparts :
      (("$2b$" ++ twoDigits cost ++ "$" ++ S ++ D).split '$').toList.map String.Slice.copy =
        ["", "2b", twoDigits cost, S ++ D] := by
    rw [String.toList_split_char, hjoin, List.splitOn_intercalate '$' ?_ (by simp)]
    · simp
    · simp [hcd, dollar_not_mem_encode, S, D]
  have hlen : (S ++ D).toUTF8.toList.length = 53 := by
    rw [Octets.toUTF8_toList_append, List.length_append, hSlen, hDlen]
  have hSD : S ++ D ≠ "" := by
    intro h
    rw [h, Octets.toUTF8_toList] at hlen
    simp at hlen
  have hfilter : ["", "2b", twoDigits cost, S ++ D].filter (· ≠ "") =
      ["2b", twoDigits cost, S ++ D] := by
    simp [hcne, hSD]
  -- the salt's 22 symbols end before the digest's first symbol, an ASCII one
  have hboundary : (S ++ D).toUTF8.toList.getD 22 0 < 0x80 := by
    rw [Octets.toUTF8_toList_append, List.getD_eq_getElem?_getD,
      List.getElem?_append_right (by omega), hSlen, Nat.sub_self]
    obtain ⟨b, hb⟩ : ∃ b, D.toUTF8.toList[0]? = some b :=
      ⟨D.toUTF8.toList[0], List.getElem?_eq_getElem (by omega)⟩
    rw [hb, Option.getD_some, UInt8.lt_iff_toNat_lt]
    exact Base64.lt_of_mem_encode Base64.Alphabet.crypt_lawful _ b (List.mem_of_getElem? hb)
  unfold splitHash
  rw [hparts, hfilter]
  simp only [show ["2y", "2b", "2a", "2x"].contains "2b" = true from rfl, Bool.not_true,
    Bool.false_eq_true, if_false, readUnsigned_twoDigits cost hlo hhi, hlen, hboundary,
    decide_true, Bool.true_or, and_self, if_true]
  rw [Octets.toUTF8_toList_append, List.take_left' hSlen, List.drop_left' hSlen]

theorem hashWithSalt_eq_ok {password : List UInt8} {cost : Nat} {salt : List UInt8}
    {hash : String} (h : hashWithSalt password cost salt = .ok hash) :
    minCost ≤ cost ∧ cost ≤ maxCost ∧ hash = "$2b$" ++ twoDigits cost ++ "$" ++
      Base64.encode .crypt salt ++ Base64.encode .crypt (digest cost salt password) := by
  unfold hashWithSalt at h
  split at h
  · cases h
  · rename_i hcost
    cases h
    exact ⟨by omega, by omega, rfl⟩

/-- **A written hash is read back**: checking any password against it compares that password's
digest, under the hash's cost and salt, with the digest written. -/
theorem verify_hashWithSalt {password : List UInt8} {cost : Nat} {salt : List UInt8}
    {hash : String} (hsalt : salt.length = 16) (h : hashWithSalt password cost salt = .ok hash)
    (q : List UInt8) :
    verify q hash = .ok (digest cost salt password == digest cost salt q) := by
  obtain ⟨hlo, hhi, rfl⟩ := hashWithSalt_eq_ok h
  have hcost : ¬(cost < minCost ∨ cost > maxCost) := by omega
  unfold verify
  rw [splitHash_written hlo hhi hsalt]
  simp only [bind, Except.bind, Base64.decode_encode Base64.Alphabet.crypt_lawful,
    Except.mapError, hsalt, ne_eq, not_true_eq_false, if_false, hcost]
  rfl

end Bcrypt

theorem Directory.length_saltOf (seed : Nat) : (Directory.saltOf seed).length = 16 := by
  simp [Directory.saltOf]

/-- **A password hashed by the directory is checked by bcrypt**: against the hash, bcrypt gives a
verdict for every password, and accepts the one hashed. -/
theorem verify_hashPassword {password : String} {cost seed : Nat} {hash : String}
    (h : hashPassword password cost (Directory.saltOf seed) = .ok hash) (q : String) :
    Bcrypt.verify q.toUTF8.toList hash =
      .ok (Bcrypt.digest cost (Directory.saltOf seed) password.toUTF8.toList ==
        Bcrypt.digest cost (Directory.saltOf seed) q.toUTF8.toList) := by
  have hw : Bcrypt.hashWithSalt password.toUTF8.toList cost (Directory.saltOf seed) = .ok hash := by
    unfold hashPassword at h
    cases hb : Bcrypt.hashWithSalt password.toUTF8.toList cost (Directory.saltOf seed) with
    | error e => rw [hb] at h; cases h
    | ok hash' => rw [hb] at h; cases h; rfl
  exact Bcrypt.verify_hashWithSalt (Directory.length_saltOf seed) hw _

end Backoffice
