import Stencil.Text.Percent

/-!
Percent encoding, there and back.

Reading starts from the bytes of what was written. All of its characters are ASCII, so they are one byte each, and the
bytes are those of one written byte after the other. What was written for a byte is read as that byte: if it stands for
itself it is no percent sign, and otherwise the two digits are its own. So reading comes to the bytes of the text, which
are UTF-8 because the text was one; the case that they are not never arises.
-/

namespace Stencil.Text

open Stencil.Number

/-! ## 1. Bytes of a text -/

theorem toList_loop (bytes : ByteArray) (i : Nat) (read : List UInt8) :
    ByteArray.toList.loop bytes i read = read.reverse ++ bytes.data.toList.drop i := by
  fun_induction ByteArray.toList.loop bytes i read with
  | case1 i read hi ih =>
    have hlength : i < bytes.data.toList.length := by simpa using hi
    have hget : bytes.get! i = bytes.data.toList[i] := getElem!_pos bytes.data i hi
    rw [ih, List.drop_eq_getElem_cons hlength, hget, List.reverse_cons, List.append_assoc, List.singleton_append]
  | case2 i read hi =>
    rw [List.drop_eq_nil_of_le (by simpa using hi), List.append_nil]

theorem toList_eq_data (bytes : ByteArray) : bytes.toList = bytes.data.toList := by
  rw [ByteArray.toList, toList_loop, List.reverse_nil, List.nil_append, List.drop_zero]

theorem mk_toList (bytes : ByteArray) : ByteArray.mk bytes.toList.toArray = bytes := by
  rw [toList_eq_data, Array.toArray_toList]

/-- The bytes of a text are those of its characters. -/
theorem toList_toUTF8 (cs : List Char) : (String.ofList cs).toUTF8.toList = cs.flatMap String.utf8EncodeChar := by
  rw [String.toUTF8_eq_toByteArray, String.toByteArray_ofList, toList_eq_data, List.utf8Encode,
    List.toList_data_toByteArray]

theorem fromUTF8?_toUTF8 (s : String) : String.fromUTF8? s.toUTF8 = some s := by
  rw [String.fromUTF8?, String.toUTF8_eq_toByteArray, dif_pos s.isValidUTF8]
  rfl

/-- What holds of the first 256 numbers holds of every byte. -/
theorem forall_byte {p : UInt8 → Prop} (h : ∀ n < 256, p (.ofNat n)) (b : UInt8) : p b := by
  have hb := h b.toNat b.toNat_lt
  rwa [UInt8.ofNat_toNat] at hb

namespace Percent

/-! ## 2. One byte -/

variable {b high low : UInt8} {h l : Nat} {rest : List UInt8}

theorem bytes_of_isPlain : ∀ b, isPlain b = true → String.utf8EncodeChar (.ofNat b.toNat) = [b] :=
  forall_byte (by decide +kernel)

theorem bytes_hexUpper : ∀ n < 16, String.utf8EncodeChar (hexUpper n) = [.ofNat (hexUpper n).toNat] := by
  decide

theorem hexByte?_hexUpper : ∀ n < 16, hexByte? (.ofNat (hexUpper n).toNat) = some n := by
  decide

/-- Only a percent sign is not read as itself. -/
theorem decodeBytes_cons (hb : b ≠ sign) (rest : List UInt8) : decodeBytes (b :: rest) = b :: decodeBytes rest := by
  match rest with
  | [] => rfl
  | [_] => rfl
  | _ :: _ :: _ => rw [decodeBytes, if_neg hb]

theorem decodeBytes_sign (hhigh : hexByte? high = some h) (hlow : hexByte? low = some l) (rest : List UInt8) :
    decodeBytes (sign :: high :: low :: rest) = .ofNat (16 * h + l) :: decodeBytes rest := by
  rw [decodeBytes, if_pos rfl, hhigh, hlow]

/-- What is written for a byte is read as that byte. -/
theorem decodeBytes_encodeByte (b : UInt8) (rest : List UInt8) :
    decodeBytes ((encodeByte b).flatMap String.utf8EncodeChar ++ rest) = b :: decodeBytes rest := by
  rw [encodeByte]
  split
  · next hplain =>
    have hsign : b ≠ sign := by
      rintro rfl
      exact absurd hplain (by decide)
    rw [List.flatMap_singleton, bytes_of_isPlain b hplain]
    exact decodeBytes_cons hsign rest
  · have hhigh : b.toNat / 16 < 16 := Nat.div_lt_of_lt_mul b.toNat_lt
    have hlow : b.toNat % 16 < 16 := Nat.mod_lt _ (by decide)
    have hvalue : 16 * (b.toNat / 16) + b.toNat % 16 = b.toNat := Nat.div_add_mod _ _
    have hsign : String.utf8EncodeChar '%' = [sign] := by decide
    rw [List.flatMap_cons, List.flatMap_cons, List.flatMap_singleton, hsign, bytes_hexUpper _ hhigh,
      bytes_hexUpper _ hlow]
    show decodeBytes (sign :: _ :: _ :: rest) = _
    rw [decodeBytes_sign (hexByte?_hexUpper _ hhigh) (hexByte?_hexUpper _ hlow), hvalue, UInt8.ofNat_toNat]

/-! ## 3. Whole texts -/

theorem decodeBytes_encode (bytes : List UInt8) :
    decodeBytes ((bytes.flatMap encodeByte).flatMap String.utf8EncodeChar) = bytes := by
  induction bytes with
  | nil => rfl
  | cons b bytes ih => rw [List.flatMap_cons, List.flatMap_append, decodeBytes_encodeByte, ih]

/-- Reading undoes writing. -/
theorem decode?_encode (s : String) : decode? (encode s) = some s := by
  rw [decode?, encode, toList_toUTF8, decodeBytes_encode, mk_toList, fromUTF8?_toUTF8]

/-! ## 4. What is written -/

/-- The characters that stand for themselves in an address. -/
def IsPlainChar (c : Char) : Prop := c.isAlphanum = true ∨ c ∈ "-_.!~*'()".toList

/-- The digits of an escape. -/
def IsDigitChar (c : Char) : Prop := c ∈ "0123456789ABCDEF".toList

instance (c : Char) : Decidable (IsPlainChar c) := inferInstanceAs (Decidable (_ ∨ _))

instance (c : Char) : Decidable (IsDigitChar c) := inferInstanceAs (Decidable (_ ∈ _))

/-- A text in the alphabet of addresses. A percent sign is in it only with two digits behind. -/
inductive Escaped : List Char → Prop
  | nil : Escaped []
  | plain {c : Char} {cs : List Char} (hc : IsPlainChar c) (hcs : Escaped cs) : Escaped (c :: cs)
  | sign {high low : Char} {cs : List Char} (hhigh : IsDigitChar high) (hlow : IsDigitChar low) (hcs : Escaped cs) :
    Escaped ('%' :: high :: low :: cs)

theorem isPlainChar_of_isPlain : ∀ b, isPlain b = true → IsPlainChar (.ofNat b.toNat) :=
  forall_byte (by decide +kernel)

theorem isDigitChar_hexUpper : ∀ n < 16, IsDigitChar (hexUpper n) := by
  decide

theorem escaped_encode (s : String) : Escaped (encode s).toList := by
  rw [encode, String.toList_ofList]
  induction s.toUTF8.toList with
  | nil => exact .nil
  | cons b bytes ih =>
    rw [List.flatMap_cons, encodeByte]
    split
    · next hplain => exact .plain (isPlainChar_of_isPlain b hplain) ih
    · exact .sign (isDigitChar_hexUpper _ (Nat.div_lt_of_lt_mul b.toNat_lt))
        (isDigitChar_hexUpper _ (Nat.mod_lt _ (by decide))) ih

end Percent

end Stencil.Text
