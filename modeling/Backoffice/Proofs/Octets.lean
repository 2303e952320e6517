import Backoffice.Text.Utf8

/-! # Octets of text

Tokens, JSON text and Base64 text are read as octets (`s.toUTF8.toList`). This file turns that
expression into one that proofs can walk through: the octets of a string are the UTF-8 octets of
its characters in order (`toUTF8_toList`), so they split at appended strings
(`toUTF8_toList_append`), and an ASCII character is the one octet of its code
(`utf8EncodeChar_of_lt`). Two strings with the same octets are equal (`eq_of_toUTF8_toList`). -/

namespace Backoffice

namespace Octets

/-! ## Byte arrays as lists -/

/-- The list loop of a byte array, from index `i` with `r` already collected newest first. -/
theorem byteArray_toList_loop (bs : ByteArray) (i : Nat) (r : List UInt8) :
    ByteArray.toList.loop bs i r = r.reverse ++ bs.data.toList.drop i := by
  fun_induction ByteArray.toList.loop bs i r with
  | case1 i r h ih =>
    -- one more octet is taken from the front of what is left
    have hi : i < bs.data.toList.length := by simpa using h
    rw [ih, List.drop_eq_getElem_cons hi]
    simp [ByteArray.get!, getElem!_pos bs.data i (by simpa using h)]
  | case2 i r h =>
    have hend : bs.data.toList.length ≤ i := by simpa using Nat.le_of_not_lt h
    simp [List.drop_eq_nil_of_le hend]

/-- **The octets of a byte array** are those of its underlying array. -/
theorem byteArray_toList (bs : ByteArray) : bs.toList = bs.data.toList := by
  simp [ByteArray.toList, byteArray_toList_loop]

/-! ## Strings -/

/-- **The octets of a string** are the UTF-8 octets of its characters, in order. -/
theorem toUTF8_toList (s : String) :
    s.toUTF8.toList = s.toList.flatMap String.utf8EncodeChar := by
  rw [byteArray_toList, String.toUTF8_eq_toByteArray, ← String.utf8Encode_toList,
    List.utf8Encode, List.toList_data_toByteArray]

@[simp] theorem toUTF8_toList_append (s t : String) :
    (s ++ t).toUTF8.toList = s.toUTF8.toList ++ t.toUTF8.toList := by
  rw [toUTF8_toList, toUTF8_toList, toUTF8_toList, String.toList_append, List.flatMap_append]

theorem toUTF8_toList_ofList (cs : List Char) :
    (String.ofList cs).toUTF8.toList = cs.flatMap String.utf8EncodeChar := by
  rw [toUTF8_toList, String.toList_ofList]

/-- **An ASCII character is one octet**, its code. -/
theorem utf8EncodeChar_of_lt {c : Char} (h : c.toNat < 128) :
    String.utf8EncodeChar c = [c.toNat.toUInt8] := by
  have hsize : c.utf8Size = 1 := by
    rw [Char.utf8Size_eq_one_iff, UInt32.le_iff_toNat_le]
    exact Nat.le_of_lt_succ h
  rw [String.utf8EncodeChar_eq_singleton hsize]
  rfl

/-- The octets of a string of ASCII characters are their codes. -/
theorem toUTF8_toList_ofList_ascii {cs : List Char} (h : ∀ c ∈ cs, c.toNat < 128) :
    (String.ofList cs).toUTF8.toList = cs.map fun c => c.toNat.toUInt8 := by
  rw [toUTF8_toList_ofList]
  induction cs with
  | nil => rfl
  | cons c cs ih =>
    rw [List.flatMap_cons, utf8EncodeChar_of_lt (h c (by simp)),
      ih fun x hx => h x (by simp [hx])]
    rfl

/-- **Strings are determined by their octets.** -/
theorem eq_of_toUTF8_toList {s t : String} (h : s.toUTF8.toList = t.toUTF8.toList) : s = t := by
  rw [byteArray_toList, byteArray_toList, Array.toList_inj] at h
  exact String.toByteArray_inj.mp (ByteArray.ext h)

end Octets

end Backoffice
