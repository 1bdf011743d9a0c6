import Stencil.Number.Hex

/-!
Percent encoding.

A part of an address may hold letters, digits and nine marks as they are; every other byte of the UTF-8 form of
the text is written as a percent sign and two hexadecimal digits. Reading takes bytes, since the escapes of one
character come one by one, and gives up on the whole text when the bytes are no UTF-8.
-/

namespace Stencil.Text.Percent

open Stencil.Number

/-- The percent sign. -/
def sign : UInt8 := 37

/-- Whether a byte is written as it is. -/
def isPlain (b : UInt8) : Bool :=
  let n := b.toNat
  (48 ≤ n && n ≤ 57) || (65 ≤ n && n ≤ 90) || (97 ≤ n && n ≤ 122) ||
    n == 45 || n == 95 || n == 46 || n == 33 || n == 126 || n == 42 || n == 39 || n == 40 || n == 41

/-- A byte in an address. -/
def encodeByte (b : UInt8) : List Char :=
  if isPlain b then [.ofNat b.toNat]
  else ['%', hexUpper (b.toNat / 16), hexUpper (b.toNat % 16)]

/-- The text as part of an address. -/
def encode (s : String) : String := .ofList (s.toUTF8.toList.flatMap encodeByte)

/-- The value of a byte that is a hexadecimal digit. -/
def hexByte? (b : UInt8) : Option Nat := hexValue? (.ofNat b.toNat)

/-- The bytes with their escapes undone; a percent sign without two digits stays. -/
def decodeBytes : List UInt8 → List UInt8
  | [] => []
  | b :: high :: low :: rest =>
    if b = sign then
      match hexByte? high, hexByte? low with
      | some h, some l => .ofNat (16 * h + l) :: decodeBytes rest
      | _, _ => b :: decodeBytes (high :: low :: rest)
    else b :: decodeBytes (high :: low :: rest)
  | b :: rest => b :: decodeBytes rest

/-- The text that was encoded; `none` when the bytes are no text. -/
def decode? (s : String) : Option String :=
  String.fromUTF8? (.mk (decodeBytes s.toUTF8.toList).toArray)

end Stencil.Text.Percent
