import Mathlib.Tactic.SplitIfs
import Mathlib.Data.List.Basic
import Backoffice.Json.Reader
import Backoffice.Json.Writer
import Backoffice.Proofs.Octets

/-! # Written JSON reads back

The writer and the reader agree on the values a claim set is made of. This file follows the
reader through text the writer produced, one scanner at a time, and shows that each scanner
takes exactly the token written and returns the value it was written from.

* **Strings** — `readString_quoted`: a string written by `quoteString` reads back as itself,
  whatever it holds. Each character is taken by one of three paths of `readStringOctets`: the
  one-letter escapes, the `\u00xx` escapes of the other control characters, and the octets of
  every other character taken as they are (`octets_of_unescaped`: none of them ends the
  string, starts an escape or is a control octet).
* **Numbers** — `readNumber_digits`: the decimal digits of a number that fits 64 bits are read
  as that number; a number then ends where the next octet is not part of one.
* **Values** — `readValue_scalar`: null, booleans, strings and whole numbers in the ranges the
  reader keeps whole are read back as themselves.
* **Objects** — `parseValue_render_object`: an object whose members are such values, with keys
  strictly increasing, reads back as itself. The member loop keeps what it read so far sorted
  by key (`JsonValue.insertField`), and a key above all of them is appended, so the loop ends
  with the members in the order they were written. -/

namespace Backoffice

namespace Json

/-! ## Cursor steps -/

/-- Blank space is skipped only when there is some. -/
theorem skipBlank_cons {b : UInt8} (h : Cursor.isBlank b = false) (tl : List UInt8) (i : Nat) :
    Cursor.skipBlank ⟨b :: tl, i⟩ = ⟨b :: tl, i⟩ := by
  rw [Cursor.skipBlank.eq_1, if_neg (by simp [h])]

theorem skipBlank_nil (i : Nat) : Cursor.skipBlank ⟨[], i⟩ = ⟨[], i⟩ := by
  rw [Cursor.skipBlank.eq_2]

/-! ## Strings -/

/-- **The octets of one character inside a written string.** -/
def escapedOctets (ch : Char) : List UInt8 := (escapeChar ch).flatMap String.utf8EncodeChar

/-- A written string is its characters' escaped octets between two quotes. -/
theorem quoteString_octets (s : String) :
    (quoteString s).toUTF8.toList = 0x22 :: s.toList.flatMap escapedOctets ++ [0x22] := by
  rw [quoteString, Octets.toUTF8_toList_ofList, List.flatMap_cons, List.flatMap_append,
    List.flatMap_assoc]
  rfl

/-- Octets that are neither control octets, a quote nor a backslash are taken as they are. -/
theorem readStringOctets_raw {bs : List UInt8} (hbs : ∀ b ∈ bs, 0x20 ≤ b ∧ b ≠ 0x22 ∧ b ≠ 0x5C)
    (rest : List UInt8) (i : Nat) (acc : List UInt8) :
    readStringOctets (bs ++ rest) i acc =
      readStringOctets rest (i + bs.length) (bs.reverse ++ acc) := by
  induction bs generalizing i acc with
  | nil => simp
  | cons b bs ih =>
    obtain ⟨hlo, hq, hbs'⟩ := hbs b (by simp)
    have hctl : ¬ b < 0x20 := UInt8.not_lt.mpr hlo
    rw [List.cons_append, readStringOctets.eq_6 _ _ _ _ hq hbs', if_neg hctl,
      ih (fun x hx => hbs x (by simp [hx]))]
    simp [Nat.add_assoc, Nat.add_comm 1]

/-- A one-letter escape is read as the octet it stands for. -/
theorem readStringOctets_shortEscape {e o : UInt8} (h : shortEscape? e = some o)
    (rest : List UInt8) (i : Nat) (acc : List UInt8) :
    readStringOctets (0x5C :: e :: rest) i acc = readStringOctets rest (i + 2) (o :: acc) := by
  rw [readStringOctets.eq_def]
  simp only [h]

/-- The lowercase hexadecimal digits are ASCII and read back as their values. -/
theorem hexChar_digit :
    ∀ n, n < 16 → (hexChar n).toNat < 128 ∧ hexDigit? (hexChar n).toNat.toUInt8 = some n := by
  decide

/-- The four digits of a `\u00xx` escape read back as the control character's code. -/
theorem hex4?_control {n : Nat} (h : n < 0x20) :
    hex4? 0x30 0x30 (hexChar (n / 16)).toNat.toUInt8 (hexChar (n % 16)).toNat.toUInt8 =
      some n := by
  have hhi := (hexChar_digit (n / 16) (by omega)).2
  have hlo := (hexChar_digit (n % 16) (by omega)).2
  have h0 : hexDigit? 0x30 = some 0 := by decide
  simp only [hex4?, hhi, hlo, h0, Option.bind_eq_bind, Option.bind_some]
  show some _ = some n
  congr 1
  omega

/-- A control character written as `\u00xx` is read back as its one octet. -/
theorem readStringOctets_control {ch : Char} (h : ch.toNat < 0x20) (rest : List UInt8) (i : Nat)
    (acc : List UInt8) :
    readStringOctets
        (['\\', 'u', '0', '0', hexChar (ch.toNat / 16), hexChar (ch.toNat % 16)].flatMap
          String.utf8EncodeChar ++ rest) i acc =
      readStringOctets rest (i + 6) ((String.utf8EncodeChar ch).reverse ++ acc) := by
  have hhi := (hexChar_digit (ch.toNat / 16) (by omega)).1
  have hlo := (hexChar_digit (ch.toNat % 16) (by omega)).1
  simp only [List.flatMap_cons, List.flatMap_nil, Octets.utf8EncodeChar_of_lt hhi,
    Octets.utf8EncodeChar_of_lt hlo, List.append_nil, List.cons_append, List.nil_append]
  show readStringOctets (0x5C :: 0x75 :: 0x30 :: 0x30 :: (hexChar (ch.toNat / 16)).toNat.toUInt8 ::
    (hexChar (ch.toNat % 16)).toNat.toUInt8 :: rest) i acc = _
  -- a control character is no surrogate, so the escape stands for itself
  have hu : shortEscape? 0x75 = none := by decide
  have hlow : isLowSurrogate ch.toNat = false := by simp [isLowSurrogate]; omega
  have hhigh : isHighSurrogate ch.toNat = false := by simp [isHighSurrogate]; omega
  rw [readStringOctets.eq_4]
  simp only [hu, hex4?_control h, hlow, hhigh, pushChar, Char.ofNat_toNat]
  rfl

/-- An octet of at least `0x80` is no control octet, quote or backslash. -/
theorem plain_of_high {b : UInt8} (h : 0x80 ≤ b) : 0x20 ≤ b ∧ b ≠ 0x22 ∧ b ≠ 0x5C := by
  rw [UInt8.le_iff_toNat_le] at h
  refine ⟨?_, ?_, ?_⟩
  · rw [UInt8.le_iff_toNat_le]
    simp at h ⊢
    omega
  · rintro rfl
    simp at h
  · rintro rfl
    simp at h

/-- **A character written as itself** is no control character, quote or backslash, and neither
is any of its octets: an ASCII one is its own code, and every octet of a longer one is at least
`0x80`. -/
theorem octets_of_unescaped {ch : Char} (hlo : 0x20 ≤ ch.toNat) (hq : ch ≠ '"') (hb : ch ≠ '\\') :
    ∀ b ∈ String.utf8EncodeChar ch, 0x20 ≤ b ∧ b ≠ 0x22 ∧ b ≠ 0x5C := by
  by_cases hascii : ch.toNat < 128
  · rw [Octets.utf8EncodeChar_of_lt hascii]
    intro b hmem
    obtain rfl : b = ch.toNat.toUInt8 := by simpa using hmem
    have hto : ch.toNat.toUInt8.toNat = ch.toNat := by simp; omega
    refine ⟨?_, ?_, ?_⟩
    · rw [UInt8.le_iff_toNat_le, hto]
      simpa using hlo
    · intro h
      apply hq
      rw [← Char.ofNat_toNat ch, ← hto, h]
      rfl
    · intro h
      apply hb
      rw [← Char.ofNat_toNat ch, ← hto, h]
      rfl
  · rw [String.utf8EncodeChar_eq_utf8EncodeCharFast]
    unfold String.utf8EncodeCharFast
    have hv : ¬ ch.val ≤ 0x7f := by
      intro h
      have h127 : ch.val.toNat ≤ 127 := by simpa [UInt32.le_iff_toNat_le] using h
      exact hascii (Nat.lt_succ_of_le h127)
    rw [if_neg hv]
    -- two, three or four octets, each with its top bit set
    split
    · simp only [List.mem_cons, List.not_mem_nil, or_false]
      rintro b (rfl | rfl) <;> exact plain_of_high (UInt8.le_trans (by decide) UInt8.right_le_or)
    · split
      · simp only [List.mem_cons, List.not_mem_nil, or_false]
        rintro b (rfl | rfl | rfl) <;>
          exact plain_of_high (UInt8.le_trans (by decide) UInt8.right_le_or)
      · simp only [List.mem_cons, List.not_mem_nil, or_false]
        rintro b (rfl | rfl | rfl | rfl) <;>
          exact plain_of_high (UInt8.le_trans (by decide) UInt8.right_le_or)

/-- **One written character is read back as its own octets.** -/
theorem readStringOctets_escapedOctets (ch : Char) (rest : List UInt8) (i : Nat)
    (acc : List UInt8) :
    readStringOctets (escapedOctets ch ++ rest) i acc =
      readStringOctets rest (i + (escapedOctets ch).length)
        ((String.utf8EncodeChar ch).reverse ++ acc) := by
  unfold escapedOctets escapeChar
  split_ifs with hq hbs hbk hff hnl hcr htab hctl
  -- the one-letter escapes
  · subst hq
    exact readStringOctets_shortEscape (by decide) rest i acc
  · subst hbs
    exact readStringOctets_shortEscape (by decide) rest i acc
  · subst hbk
    exact readStringOctets_shortEscape (by decide) rest i acc
  · subst hff
    exact readStringOctets_shortEscape (by decide) rest i acc
  · subst hnl
    exact readStringOctets_shortEscape (by decide) rest i acc
  · subst hcr
    exact readStringOctets_shortEscape (by decide) rest i acc
  · subst htab
    exact readStringOctets_shortEscape (by decide) rest i acc
  · have hhi := (hexChar_digit (ch.toNat / 16) (by omega)).1
    have hlo := (hexChar_digit (ch.toNat % 16) (by omega)).1
    rw [readStringOctets_control hctl]
    congr 2
    simp only [List.flatMap_cons, List.flatMap_nil, Octets.utf8EncodeChar_of_lt hhi,
      Octets.utf8EncodeChar_of_lt hlo, List.append_nil]
    rfl
  -- every other character, as itself
  · rw [List.flatMap_singleton, readStringOctets_raw (octets_of_unescaped (by omega) hq hbs)]

/-- **The characters of a written string, then its closing quote,** are read back as the
characters' octets. -/
theorem readStringOctets_escaped (cs : List Char) (rest : List UInt8) (i : Nat)
    (acc : List UInt8) :
    readStringOctets (cs.flatMap escapedOctets ++ 0x22 :: rest) i acc =
      .ok (acc.reverse ++ cs.flatMap String.utf8EncodeChar,
        ⟨rest, i + (cs.flatMap escapedOctets).length + 1⟩) := by
  induction cs generalizing i acc with
  | nil => simp [readStringOctets]
  | cons ch cs ih =>
    rw [List.flatMap_cons, List.append_assoc, readStringOctets_escapedOctets, ih]
    simp [Nat.add_assoc]

/-- The octets of a string are valid UTF-8 and decode to it. -/
theorem fromUTF8?_octets (s : String) : String.fromUTF8? ⟨s.toUTF8.toList.toArray⟩ = some s := by
  rw [Octets.byteArray_toList, Array.toArray_toList, String.toUTF8_eq_toByteArray]
  simp [String.fromUTF8?, String.fromUTF8, s.isValidUTF8]

/-- **A written string reads back as itself.** -/
theorem readString_quoted (s : String) (rest : List UInt8) (i : Nat) :
    Cursor.readString ⟨s.toList.flatMap escapedOctets ++ 0x22 :: rest, i⟩ =
      .ok (s, ⟨rest, i + (s.toList.flatMap escapedOctets).length + 1⟩) := by
  rw [Cursor.readString]
  simp only [readStringOctets_escaped, List.reverse_nil, List.nil_append, ← Octets.toUTF8_toList,
    fromUTF8?_octets]

/-! ## Numbers

A whole number is written as its decimal digits (`Nat.toDigits`), with a minus sign in front when
it is negative. The reader folds the digits into a number while it fits 64 bits, and then looks
at the octet after them: a point or an exponent mark would make the number a float. -/

/-- **The number that decimal digits spell**, continuing the number `s` spelled before them. -/
def digitsValue (s : Nat) (ds : List UInt8) : Nat := ds.foldl (fun a b => a * 10 + digitValue b) s

theorem le_digitsValue (s : Nat) (ds : List UInt8) : s ≤ digitsValue s ds := by
  induction ds generalizing s with
  | nil => simp [digitsValue]
  | cons b ds ih =>
    have := ih (s * 10 + digitValue b)
    simp only [digitsValue, List.foldl_cons] at this ⊢
    omega

/-- **The whole-number loop** takes a run of digits whose value fits 64 bits and stops at the
first octet that is not a digit. -/
theorem wholeDigits_digits (positive : Bool) {ds : List UInt8} (hds : ∀ b ∈ ds, isDigit b = true)
    (s : Nat) (hmax : digitsValue s ds ≤ uint64Max) (rest : List UInt8)
    (hrest : ∀ b ∈ rest.head?, isDigit b = false) (i : Nat) :
    wholeDigits positive s ⟨ds ++ rest, i⟩ =
      afterWhole positive (digitsValue s ds) ⟨rest, i + ds.length⟩ := by
  induction ds generalizing s i with
  | nil =>
    cases rest with
    | nil => simp [wholeDigits, digitsValue]
    | cons b tl =>
      have hb : isDigit b = false := hrest b rfl
      simp [wholeDigits, hb, digitsValue]
  | cons b ds ih =>
    have hb : isDigit b = true := hds b (by simp)
    have hstep : ¬ s * 10 + digitValue b > uint64Max := by
      have := le_digitsValue (s * 10 + digitValue b) ds
      simp only [digitsValue, List.foldl_cons] at hmax this
      omega
    rw [List.cons_append, wholeDigits.eq_1, if_pos hb]
    simp only [if_neg hstep]
    rw [ih (fun x hx => hds x (by simp [hx])) _ (by simpa [digitsValue] using hmax)]
    simp [digitsValue, Nat.add_assoc, Nat.add_comm 1]

theorem toNat_of_isDigit {c : Char} (h : c.isDigit = true) : 48 ≤ c.toNat ∧ c.toNat ≤ 57 := by
  simp only [Char.isDigit, Bool.and_eq_true, decide_eq_true_eq, UInt32.le_iff_toNat_le] at h
  exact h

/-- The octets of a number's decimal text are the codes of its digits. -/
theorem toString_octets (n : Nat) :
    (toString n).toUTF8.toList = (Nat.toDigits 10 n).map fun c => c.toNat.toUInt8 := by
  rw [Nat.toString_eq_ofList_toDigits, Octets.toUTF8_toList_ofList_ascii]
  intro c hc
  have := toNat_of_isDigit (Nat.isDigit_of_mem_toDigits (by decide) (by decide) hc)
  omega

theorem isDigit_octet {c : Char} (h : c.isDigit = true) : isDigit c.toNat.toUInt8 = true := by
  have := toNat_of_isDigit h
  simp [isDigit, UInt8.le_iff_toNat_le]
  omega

theorem digitValue_octet {c : Char} (h : c.isDigit = true) :
    digitValue c.toNat.toUInt8 = c.toNat - '0'.toNat := by
  have := toNat_of_isDigit h
  simp [digitValue]
  omega

/-- The digits of a number spell it. -/
theorem digitsValue_toString (n : Nat) : digitsValue 0 (toString n).toUTF8.toList = n := by
  rw [toString_octets, digitsValue, List.foldl_map]
  conv => rhs; rw [← Nat.ofDigitChars_ten_toDigits (n := n)]
  rw [Nat.ofDigitChars_eq_foldl]
  apply List.foldl_ext
  intro a c hc
  rw [digitValue_octet (Nat.isDigit_of_mem_toDigits (by decide) (by decide) hc), Nat.mul_comm]

/-- A number's decimal text starts with `0` only when it is `0` itself. -/
theorem toDigits_head (n : Nat) : ∃ d ds, Nat.toDigits 10 n = d :: ds ∧ (d = '0' → n = 0) := by
  induction n using Nat.strongRecOn with
  | ind n ih =>
    rw [Nat.toDigits_eq_if (by decide)]
    split
    · rename_i hlt
      refine ⟨Nat.digitChar n, [], rfl, fun h => ?_⟩
      have hdec : ∀ m, m < 10 → Nat.digitChar m = '0' → m = 0 := by decide
      exact hdec n hlt h
    · rename_i hge
      obtain ⟨d, ds, h, hd⟩ := ih (n / 10) (by omega)
      refine ⟨d, ds ++ [Nat.digitChar (n % 10)], by rw [h, List.cons_append], fun h0 => ?_⟩
      have := hd h0
      omega

/-- **The decimal text of a number that fits 64 bits is read as that number**, up to the octet
after its last digit. -/
theorem readNumber_digits (positive : Bool) {n : Nat} (hn : n ≤ uint64Max) {rest : List UInt8}
    (hrest : ∀ b ∈ rest.head?, isDigit b = false) (i : Nat) :
    Cursor.readNumber ⟨(toString n).toUTF8.toList ++ rest, i⟩ positive =
      afterWhole positive n ⟨rest, i + (toString n).toUTF8.toList.length⟩ := by
  obtain ⟨d, ds, hdigits, hzero⟩ := toDigits_head n
  have hval := digitsValue_toString n
  have hdig : ∀ c ∈ d :: ds, c.isDigit = true := fun c hc =>
    Nat.isDigit_of_mem_toDigits (b := 10) (n := n) (by decide) (by decide)
      (by rw [hdigits]; exact hc)
  rw [toString_octets, hdigits, List.map_cons] at hval ⊢
  rw [digitsValue, List.foldl_cons, Nat.zero_mul, Nat.zero_add] at hval
  have hd := toNat_of_isDigit (hdig d (by simp))
  have hto : d.toNat.toUInt8.toNat = d.toNat := by simp; omega
  rw [List.cons_append, Cursor.readNumber]
  simp only
  by_cases h0 : d.toNat.toUInt8 = 0x30
  · -- a leading `0` is the whole number `0`
    have hd0 : d = '0' := by
      rw [← Char.ofNat_toNat d, ← hto, h0]
      rfl
    obtain rfl := hzero hd0
    obtain rfl : ds = [] := by
      have := Nat.toDigits_zero 10
      rw [hdigits] at this
      exact (List.cons.inj this).2
    rw [if_pos (by simp [h0])]
    cases rest with
    | nil => simp [Cursor.peek]
    | cons x tl => simp [Cursor.peek, hrest x rfl]
  · rw [if_neg (by simpa using h0), if_pos (isDigit_octet (hdig d (by simp))),
      wholeDigits_digits positive _ _ (by rw [← hval] at hn; exact hn) rest hrest]
    · rw [← hval]
      simp [digitsValue, Nat.add_assoc, Nat.add_comm 1]
    · intro b hb
      obtain ⟨c, hc, rfl⟩ := List.mem_map.mp hb
      exact isDigit_octet (hdig c (by simp [hc]))

/-- **What may follow a number**: anything but a digit, a point or an exponent mark. -/
def EndsNumber (rest : List UInt8) : Prop :=
  ∀ b ∈ rest.head?, isDigit b = false ∧ b ≠ 0x2E ∧ b ≠ 0x65 ∧ b ≠ 0x45

theorem endsNumber_comma (tl : List UInt8) : EndsNumber (0x2C :: tl) := by
  intro b hb
  obtain rfl : b = 0x2C := by simpa using hb.symm
  decide

theorem endsNumber_brace (tl : List UInt8) : EndsNumber (0x7D :: tl) := by
  intro b hb
  obtain rfl : b = 0x7D := by simpa using hb.symm
  decide

/-- A whole number with nothing after it that continues it is a `posInt`. -/
theorem afterWhole_posInt (s : Nat) {rest : List UInt8} (hrest : EndsNumber rest) (j : Nat) :
    afterWhole true s ⟨rest, j⟩ = .ok (.posInt s, ⟨rest, j⟩) := by
  cases rest with
  | nil => simp [afterWhole, Cursor.peek]
  | cons b tl =>
    obtain ⟨-, hpt, he, hE⟩ := hrest b rfl
    simp [afterWhole, Cursor.peek, hpt, he, hE]

/-- A negative whole number within signed 64 bits is a `negInt`. -/
theorem afterWhole_negInt {s : Nat} (h1 : 1 ≤ s) (h2 : s ≤ Nat.pow 2 63) {rest : List UInt8}
    (hrest : EndsNumber rest) (j : Nat) :
    afterWhole false s ⟨rest, j⟩ = .ok (.negInt (-(s : Int)), ⟨rest, j⟩) := by
  cases rest with
  | nil => simp [afterWhole, Cursor.peek, h1, h2]
  | cons b tl =>
    obtain ⟨-, hpt, he, hE⟩ := hrest b rfl
    simp [afterWhole, Cursor.peek, hpt, he, hE, h1, h2]

end Json

namespace JsonValue

/-- **Values written as one token that reading returns as they are**: null, booleans, strings,
and whole numbers in the ranges the reader keeps whole. -/
def Scalar : JsonValue → Prop
  | .null => True
  | .bool _ => True
  | .string _ => True
  | .number (.posInt n) => n ≤ Json.uint64Max
  | .number (.negInt n) => n < 0 ∧ n.natAbs ≤ Nat.pow 2 63
  | _ => False

end JsonValue

namespace Json

/-! ## Values -/

theorem ne_of_isDigit {b c : UInt8} (hb : isDigit b = true) (hc : isDigit c = false) : b ≠ c := by
  rintro rfl
  simp [hb] at hc

/-- A value that starts with a digit is read as a number. -/
theorem readValue_digit {b : UInt8} (hb : isDigit b = true) (tl : List UInt8) (fuel depth i : Nat) :
    readValue (fuel + 1) depth ⟨b :: tl, i⟩ =
      (Cursor.readNumber ⟨b :: tl, i⟩ true).map fun (n, c') => (.number n, c') := by
  have hblank : Cursor.isBlank b = false := by
    have h1 := ne_of_isDigit hb (c := 0x20) (by decide)
    have h2 := ne_of_isDigit hb (c := 0x0A) (by decide)
    have h3 := ne_of_isDigit hb (c := 0x09) (by decide)
    have h4 := ne_of_isDigit hb (c := 0x0D) (by decide)
    simp [Cursor.isBlank, h1, h2, h3, h4]
  rw [readValue, skipBlank_cons hblank]
  have h1 := ne_of_isDigit hb (c := 0x6E) (by decide)
  have h2 := ne_of_isDigit hb (c := 0x74) (by decide)
  have h3 := ne_of_isDigit hb (c := 0x66) (by decide)
  have h4 := ne_of_isDigit hb (c := 0x2D) (by decide)
  simp [h1, h2, h3, h4, hb]

theorem readValue_null (rest : List UInt8) (fuel depth i : Nat) :
    readValue (fuel + 1) depth ⟨JsonValue.null.render.toUTF8.toList ++ rest, i⟩ =
      .ok (.null, ⟨rest, i + JsonValue.null.render.toUTF8.toList.length⟩) := by
  have hoct : JsonValue.null.render.toUTF8.toList = 0x6E :: [0x75, 0x6C, 0x6C] := by
    rw [JsonValue.render, Octets.toUTF8_toList]; rfl
  rw [hoct, List.cons_append, readValue, skipBlank_cons (by decide)]
  simp [Cursor.expectWord, Except.map, Nat.add_assoc]

theorem readValue_bool (b : Bool) (rest : List UInt8) (fuel depth i : Nat) :
    readValue (fuel + 1) depth ⟨(JsonValue.bool b).render.toUTF8.toList ++ rest, i⟩ =
      .ok (.bool b, ⟨rest, i + (JsonValue.bool b).render.toUTF8.toList.length⟩) := by
  cases b with
  | true =>
    have hoct : (JsonValue.bool true).render.toUTF8.toList = 0x74 :: [0x72, 0x75, 0x65] := by
      rw [JsonValue.render, Octets.toUTF8_toList]; rfl
    rw [hoct, List.cons_append, readValue, skipBlank_cons (by decide)]
    simp [Cursor.expectWord, Except.map, Nat.add_assoc]
  | false =>
    have hoct : (JsonValue.bool false).render.toUTF8.toList = 0x66 :: [0x61, 0x6C, 0x73, 0x65] := by
      rw [JsonValue.render, Octets.toUTF8_toList]; rfl
    rw [hoct, List.cons_append, readValue, skipBlank_cons (by decide)]
    simp [Cursor.expectWord, Except.map, Nat.add_assoc]

theorem readValue_string (s : String) (rest : List UInt8) (fuel depth i : Nat) :
    readValue (fuel + 1) depth ⟨(JsonValue.string s).render.toUTF8.toList ++ rest, i⟩ =
      .ok (.string s, ⟨rest, i + (JsonValue.string s).render.toUTF8.toList.length⟩) := by
  have hq : (quoteString s).toUTF8.toList ++ rest =
      0x22 :: (s.toList.flatMap escapedOctets ++ 0x22 :: rest) := by
    rw [quoteString_octets]; simp
  rw [JsonValue.render, hq, readValue, skipBlank_cons (by decide), quoteString_octets]
  simp [isDigit, readString_quoted, Except.map, Nat.add_assoc, Nat.add_comm 1]

theorem readValue_posInt {n : Nat} (hn : n ≤ uint64Max) {rest : List UInt8}
    (hrest : EndsNumber rest) (fuel depth i : Nat) :
    readValue (fuel + 1) depth ⟨(JsonValue.number (.posInt n)).render.toUTF8.toList ++ rest, i⟩ =
      .ok (.number (.posInt n),
        ⟨rest, i + (JsonValue.number (.posInt n)).render.toUTF8.toList.length⟩) := by
  obtain ⟨d, ds, hdigits, -⟩ := toDigits_head n
  have hd : d.isDigit = true :=
    Nat.isDigit_of_mem_toDigits (b := 10) (n := n) (by decide) (by decide) (by simp [hdigits])
  have hoct : (toString n).toUTF8.toList = d.toNat.toUInt8 :: ds.map fun c => c.toNat.toUInt8 := by
    rw [toString_octets, hdigits, List.map_cons]
  have hj := readNumber_digits true hn (fun b hb => (hrest b hb).1) i
  simp only [JsonValue.render, JsonNumber.render]
  rw [hoct, List.cons_append, readValue_digit (isDigit_octet hd), ← List.cons_append, ← hoct, hj,
    afterWhole_posInt n hrest]
  rfl

theorem readValue_negInt {n : Int} (hneg : n < 0) (hlo : n.natAbs ≤ Nat.pow 2 63)
    {rest : List UInt8} (hrest : EndsNumber rest) (fuel depth i : Nat) :
    readValue (fuel + 1) depth ⟨(JsonValue.number (.negInt n)).render.toUTF8.toList ++ rest, i⟩ =
      .ok (.number (.negInt n),
        ⟨rest, i + (JsonValue.number (.negInt n)).render.toUTF8.toList.length⟩) := by
  obtain ⟨m, rfl⟩ := Int.eq_negSucc_of_lt_zero hneg
  have hm : m + 1 ≤ uint64Max := by
    simp only [Int.natAbs_negSucc] at hlo
    exact Nat.le_trans hlo (by decide)
  have hj := readNumber_digits false hm (fun b hb => (hrest b hb).1) (i + 1)
  have hoct : (JsonValue.number (.negInt (Int.negSucc m))).render.toUTF8.toList =
      0x2D :: (toString (m + 1)).toUTF8.toList := by
    simp only [JsonValue.render, JsonNumber.render]
    show ("-" ++ toString (m + 1)).toUTF8.toList = _
    rw [Octets.toUTF8_toList_append, Octets.toUTF8_toList "-"]
    rfl
  simp only [Int.natAbs_negSucc] at hlo
  rw [afterWhole_negInt (Nat.le_add_left 1 m) hlo hrest] at hj
  rw [hoct, List.cons_append]
  generalize (toString (m + 1)).toUTF8.toList = ds at hj
  rw [readValue, skipBlank_cons (by decide)]
  simp [hj, Except.map, Int.negSucc_eq, Nat.add_assoc, Nat.add_comm 1]

/-- **A scalar value is read back as itself**, taking exactly its octets, when what follows
cannot continue a number. -/
theorem readValue_scalar {v : JsonValue} (hv : v.Scalar) {rest : List UInt8}
    (hrest : EndsNumber rest) (fuel depth i : Nat) :
    readValue (fuel + 1) depth ⟨v.render.toUTF8.toList ++ rest, i⟩ =
      .ok (v, ⟨rest, i + v.render.toUTF8.toList.length⟩) := by
  match v, hv with
  | .null, _ => exact readValue_null rest fuel depth i
  | .bool b, _ => exact readValue_bool b rest fuel depth i
  | .string s, _ => exact readValue_string s rest fuel depth i
  | .number (.posInt n), hn => exact readValue_posInt hn hrest fuel depth i
  | .number (.negInt n), ⟨hneg, hlo⟩ => exact readValue_negInt hneg hlo hrest fuel depth i

/-! ## Objects

An object is written as its members between braces, separated by commas. The first member is
read right after the brace (`first` set), every other one after its comma. -/

/-- **The text of one member**: its key written as a string, a colon and its value. -/
def memberText (p : String × JsonValue) : String := quoteString p.1 ++ ":" ++ p.2.render

theorem renderFields_cons (p : String × JsonValue) (ps : List (String × JsonValue)) :
    JsonValue.renderFields (p :: ps) =
      memberText p ++ String.join (ps.map fun q => "," ++ memberText q) := by
  induction ps generalizing p with
  | nil => simp [JsonValue.renderFields, memberText]
  | cons q qs ih =>
    obtain ⟨k, v⟩ := p
    rw [JsonValue.renderFields.eq_3 _ _ _ (by simp), ih]
    simp [memberText, String.append_assoc]

theorem memberText_octets (k : String) (v : JsonValue) (more : List UInt8) :
    (memberText (k, v)).toUTF8.toList ++ more =
      0x22 :: (k.toList.flatMap escapedOctets ++
        0x22 :: 0x3A :: (v.render.toUTF8.toList ++ more)) := by
  rw [memberText, Octets.toUTF8_toList_append, Octets.toUTF8_toList_append, quoteString_octets]
  have hcolon : (":" : String).toUTF8.toList = [0x3A] := by rw [Octets.toUTF8_toList]; rfl
  rw [hcolon]
  simp

theorem renderFields_octets (p : String × JsonValue) (ps : List (String × JsonValue))
    (rest : List UInt8) :
    (JsonValue.renderFields (p :: ps)).toUTF8.toList ++ rest =
      (memberText p).toUTF8.toList ++
        ((String.join (ps.map fun q => "," ++ memberText q)).toUTF8.toList ++ rest) := by
  rw [renderFields_cons, Octets.toUTF8_toList_append, List.append_assoc]

/-- The text of the members after the first, each after a comma. -/
theorem commaMembers_octets (q : String × JsonValue) (qs : List (String × JsonValue))
    (rest : List UInt8) :
    (String.join ((q :: qs).map fun q => "," ++ memberText q)).toUTF8.toList ++ rest =
      [0x2C] ++ (memberText q).toUTF8.toList ++
        ((String.join (qs.map fun q => "," ++ memberText q)).toUTF8.toList ++ rest) := by
  have hcomma : (",": String).toUTF8.toList = [0x2C] := by rw [Octets.toUTF8_toList]; rfl
  simp only [List.map_cons, String.join_cons, Octets.toUTF8_toList_append, hcomma,
    List.append_assoc]

theorem endsNumber_commaMembers (qs : List (String × JsonValue)) (rest : List UInt8) :
    EndsNumber
      ((String.join (qs.map fun q => "," ++ memberText q)).toUTF8.toList ++ 0x7D :: rest) := by
  cases qs with
  | nil =>
    have hempty : ("" : String).toUTF8.toList = [] := by rw [Octets.toUTF8_toList]; rfl
    simpa only [List.map_nil, String.join_nil, hempty, List.nil_append] using endsNumber_brace rest
  | cons q qs =>
    rw [commaMembers_octets]
    exact endsNumber_comma _

theorem length_commaMembers (qs : List (String × JsonValue)) :
    qs.length ≤ (String.join (qs.map fun q => "," ++ memberText q)).toUTF8.toList.length := by
  induction qs with
  | nil => simp
  | cons q qs ih =>
    have h := congrArg List.length (commaMembers_octets q qs [])
    simp only [List.append_nil, List.length_append, List.length_cons, List.length_nil] at h
    simp only [List.length_cons]
    omega

theorem length_renderFields (fs : List (String × JsonValue)) :
    fs.length ≤ (JsonValue.renderFields fs).toUTF8.toList.length := by
  cases fs with
  | nil => simp
  | cons p ps =>
    have h := congrArg List.length (renderFields_octets p ps [])
    have hps := length_commaMembers ps
    have hp : 0 < (memberText p).toUTF8.toList.length := by
      obtain ⟨k, v⟩ := p
      have := congrArg List.length (memberText_octets k v [])
      simp only [List.append_nil, List.length_cons] at this
      omega
    simp only [List.append_nil, List.length_append] at h
    simp only [List.length_cons]
    omega

/-- A key above every key read so far goes after them. -/
theorem insertField_of_lt {k : String} (v : JsonValue) {acc : List (String × JsonValue)}
    (h : ∀ a ∈ acc, a.1 < k) : JsonValue.insertField k v acc = acc ++ [(k, v)] := by
  induction acc with
  | nil => rfl
  | cons a acc ih =>
    obtain ⟨k', v'⟩ := a
    have hlt : k' < k := h (k', v') (by simp)
    have hnlt : ¬ k < k' := String.lt_asymm hlt
    have hne : k ≠ k' := fun heq => String.lt_irrefl k (heq ▸ hlt)
    rw [JsonValue.insertField, if_neg hnlt, if_neg hne, ih (fun a ha => h a (by simp [ha]))]
    rfl

/-- **One member is read**: its key, its colon and its value, the member going into those read so
far. -/
theorem readMembers_member (first : Bool) {k : String} {v : JsonValue} (hv : v.Scalar)
    {more : List UInt8} (hmore : EndsNumber more) (fuel depth i : Nat)
    (acc : List (String × JsonValue)) :
    ∃ j, readMembers (fuel + 2) depth
        ⟨(if first then [] else [0x2C]) ++ (memberText (k, v)).toUTF8.toList ++ more, i⟩ first acc =
      readMembers (fuel + 1) depth ⟨more, j⟩ false (JsonValue.insertField k v acc) := by
  rw [List.append_assoc, memberText_octets]
  cases first with
  | false =>
    rw [readMembers.eq_2]
    simp [-String.toUTF8_eq_toByteArray, skipBlank_cons (b := 0x2C) (by decide),
      skipBlank_cons (b := 0x22) (by decide), skipBlank_cons (b := 0x3A) (by decide), Cursor.peek,
      Cursor.bump, readString_quoted, readValue_scalar hv hmore]
    exact ⟨_, rfl⟩
  | true =>
    rw [readMembers.eq_2]
    simp [-String.toUTF8_eq_toByteArray, skipBlank_cons (b := 0x22) (by decide),
      skipBlank_cons (b := 0x3A) (by decide), Cursor.peek, Cursor.bump, readString_quoted,
      readValue_scalar hv hmore]
    exact ⟨_, rfl⟩

/-- The closing brace ends the object with the members read. -/
theorem readMembers_close (first : Bool) (fuel depth i : Nat) (acc : List (String × JsonValue))
    (rest : List UInt8) :
    readMembers (fuel + 1) depth ⟨0x7D :: rest, i⟩ first acc =
      .ok (.object acc, ⟨rest, i + 1⟩) := by
  rw [readMembers.eq_2]
  simp [skipBlank_cons (b := 0x7D) (by decide), Cursor.peek, Cursor.bump]

/-- **The member loop reads the members after the first**, each going after those read so far,
until the closing brace. The run is by induction on the members left, with the members read so
far below all of them. -/
theorem readMembers_commaMembers {ps : List (String × JsonValue)} (hs : ∀ p ∈ ps, p.2.Scalar)
    (hsort : ps.Pairwise fun p q => p.1 < q.1) (acc : List (String × JsonValue))
    (hacc : ∀ a ∈ acc, ∀ p ∈ ps, a.1 < p.1) (fuel : Nat) (hfuel : ps.length ≤ fuel)
    (depth i : Nat) (rest : List UInt8) :
    ∃ j, readMembers (fuel + 1) depth
        ⟨(String.join (ps.map fun q => "," ++ memberText q)).toUTF8.toList ++ 0x7D :: rest, i⟩
        false acc = .ok (.object (acc ++ ps), ⟨rest, j⟩) := by
  induction ps generalizing acc fuel i with
  | nil => exact ⟨i + 1, by simpa using readMembers_close false fuel depth i acc rest⟩
  | cons q qs ih =>
    obtain ⟨k, v⟩ := q
    obtain ⟨f, rfl⟩ : ∃ f, fuel = f + 1 := ⟨fuel - 1, by simp at hfuel; omega⟩
    rw [commaMembers_octets]
    obtain ⟨j, hj⟩ := readMembers_member false (hs (k, v) (by simp))
      (endsNumber_commaMembers qs rest) f depth i acc
    simp only [Bool.false_eq_true, if_false] at hj
    rw [hj, insertField_of_lt v (fun a ha => hacc a ha (k, v) (by simp))]
    have hsort' := List.pairwise_cons.mp hsort
    obtain ⟨j', hj'⟩ := ih (fun p hp => hs p (by simp [hp])) hsort'.2 (acc ++ [(k, v)])
      (by
        intro a ha p hp
        rcases List.mem_append.mp ha with ha | ha
        · exact hacc a ha p (by simp [hp])
        · obtain rfl := List.mem_singleton.mp ha
          exact hsort'.1 p hp)
      f (by simpa using hfuel) j
    exact ⟨j', by rw [hj', List.append_assoc, List.singleton_append]⟩

/-- **The members of an object are read** from after its opening brace to its closing one. -/
theorem readMembers_renderFields {fs : List (String × JsonValue)} (hs : ∀ p ∈ fs, p.2.Scalar)
    (hsort : fs.Pairwise fun p q => p.1 < q.1) (fuel : Nat) (hfuel : fs.length ≤ fuel)
    (depth i : Nat) (rest : List UInt8) :
    ∃ j, readMembers (fuel + 1) depth
        ⟨(JsonValue.renderFields fs).toUTF8.toList ++ 0x7D :: rest, i⟩ true [] =
      .ok (.object fs, ⟨rest, j⟩) := by
  cases fs with
  | nil =>
    have hempty : (JsonValue.renderFields []).toUTF8.toList = [] := by
      rw [JsonValue.renderFields, Octets.toUTF8_toList]; rfl
    rw [hempty, List.nil_append]
    exact ⟨i + 1, readMembers_close true fuel depth i [] rest⟩
  | cons p ps =>
    obtain ⟨k, v⟩ := p
    obtain ⟨f, rfl⟩ : ∃ f, fuel = f + 1 := ⟨fuel - 1, by simp at hfuel; omega⟩
    rw [renderFields_octets]
    obtain ⟨j, hj⟩ := readMembers_member true (hs (k, v) (by simp))
      (endsNumber_commaMembers ps rest) f depth i []
    simp only [if_true, List.nil_append] at hj
    rw [hj]
    have hsort' := List.pairwise_cons.mp hsort
    simpa [JsonValue.insertField] using readMembers_commaMembers (fun p hp => hs p (by simp [hp]))
      hsort'.2 [(k, v)] (by simpa using hsort'.1) f (by simpa using hfuel) depth j rest

/-- **An object of scalar members with strictly increasing keys reads back as itself.** The fuel
of the whole text is more than one step per member. -/
theorem parseValue_render_object {fs : List (String × JsonValue)} (hs : ∀ p ∈ fs, p.2.Scalar)
    (hsort : fs.Pairwise fun p q => p.1 < q.1) :
    parseValue (JsonValue.object fs).render.toUTF8.toList = .ok (.object fs) := by
  have hopen : ("\x7b" : String).toUTF8.toList = [0x7B] := by rw [Octets.toUTF8_toList]; rfl
  have hclose : ("\x7d" : String).toUTF8.toList = [0x7D] := by rw [Octets.toUTF8_toList]; rfl
  have hoct : (JsonValue.object fs).render.toUTF8.toList =
      0x7B :: ((JsonValue.renderFields fs).toUTF8.toList ++ 0x7D :: []) := by
    rw [JsonValue.render, Octets.toUTF8_toList_append, Octets.toUTF8_toList_append, hopen, hclose]
    rfl
  have hlen := length_renderFields fs
  obtain ⟨j, hj⟩ := readMembers_renderFields hs hsort
    (2 * (JsonValue.object fs).render.toUTF8.toList.length + 2)
    (by rw [hoct]; simp only [List.length_cons, List.length_append, List.length_nil]; omega)
    (nestingLimit - 1) 1 []
  unfold parseValue
  rw [readFuel, show 2 * (JsonValue.object fs).render.toUTF8.toList.length + 4 =
    (2 * (JsonValue.object fs).render.toUTF8.toList.length + 3) + 1 from rfl]
  generalize 2 * (JsonValue.object fs).render.toUTF8.toList.length = L at hj ⊢
  rw [Cursor.start, hoct, readValue, skipBlank_cons (b := 0x7B) (by decide)]
  simp only [nestingLimit, Nat.add_assoc, Nat.reduceAdd] at hj
  simp [-String.toUTF8_eq_toByteArray, isDigit, nestingLimit, hj, skipBlank_nil]

end Json

end Backoffice
