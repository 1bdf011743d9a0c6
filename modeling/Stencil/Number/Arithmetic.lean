import Stencil.Number.Binary

/-!
Arithmetic on doubles that is not built in.
-/

namespace Stencil.Number

/-- What is not a number. -/
def nan : Float := 0.0 / 0.0

/-- Minus zero. -/
def minusZero : Float := -0.0

/-- The remainder of a division that rounds toward zero. It is exact and has the sign of the first number. -/
def remainder (x y : Float) : Float :=
  match Binary.ofFloat x, Binary.ofFloat y with
  | .finite negative m e, .finite _ n f =>
    if n = 0 then nan
    else
      let low := min e f
      let rest := m * 2 ^ (e - low).toNat % (n * 2 ^ (f - low).toNat)
      let magnitude := (Float.ofNat rest).scaleB low
      if negative then -magnitude else magnitude
  | .finite _ _ _, .infinite _ => x
  | _, _ => nan

/-- The smaller of two numbers, and the second of two that are equal, such as zero and minus zero. -/
def smaller (x y : Float) : Float := if x < y then x else y

/-- The larger of two numbers, and the second of two that are equal, such as zero and minus zero. -/
def larger (x y : Float) : Float := if y < x then x else y

/-- A power of ten with an exponent that leaves it exact. -/
def smallPowerOfTen (n : Nat) : Float := Float.ofNat (10 ^ n)

/-- Rounded to so many places, a half going up. -/
def roundHalfUp (x : Float) (places : Nat) : Float :=
  (x * smallPowerOfTen places + 0.5).floor / smallPowerOfTen places

/-- A number by which doubles are in their total order: minus zero is below zero. -/
def rank (x : Float) : Int :=
  let bits := x.toBits.toNat
  if bits < 2 ^ 63 then bits else 2 ^ 63 - bits - 1

end Stencil.Number
