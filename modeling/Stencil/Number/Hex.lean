/-!
Hexadecimal digits.
-/

namespace Stencil.Number

/-- The value of a hexadecimal digit in either case. -/
def hexValue? (c : Char) : Option Nat :=
  let n := c.toNat
  if 48 ≤ n ∧ n ≤ 57 then some (n - 48)
  else if 97 ≤ n ∧ n ≤ 102 then some (n - 87)
  else if 65 ≤ n ∧ n ≤ 70 then some (n - 55)
  else none

/-- The number that `cs` continues `start` to, or `none` when a character is no hexadecimal digit. -/
def hexFrom? (start : Nat) : List Char → Option Nat
  | [] => some start
  | c :: cs => (hexValue? c).bind fun d => hexFrom? (16 * start + d) cs

/-- The number that a nonempty run of hexadecimal digits stands for. -/
def hex? : List Char → Option Nat
  | [] => none
  | c :: cs => hexFrom? 0 (c :: cs)

/-- The digit for a number below sixteen, in lower case. -/
def hexLower (n : Nat) : Char := if n < 10 then .ofNat (48 + n) else .ofNat (87 + n)

/-- The digit for a number below sixteen, in upper case. -/
def hexUpper (n : Nat) : Char := if n < 10 then .ofNat (48 + n) else .ofNat (55 + n)

/-- The hexadecimal digits of a number in lower case, without leading zeros. -/
def hexText (n : Nat) : List Char :=
  if n < 16 then [hexLower n] else hexText (n / 16) ++ [hexLower (n % 16)]

end Stencil.Number
