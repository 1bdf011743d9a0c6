import Stencil.Number.Digits

/-!
What a double is.

A finite double is plus or minus `significand · 2^exponent`; everything that has to be exact (the shortest
decimal text, the step from a double to an integer) works on these two whole numbers and not on floating
point operations. A double of either sign of zero has significand zero.
-/

namespace Stencil.Number

/-! ## 1. Taking a double apart -/

/-- A double as a number: not a number, an infinity, or plus or minus `significand · 2^exponent`. -/
inductive Binary where
  | nan
  | infinite (negative : Bool)
  | finite (negative : Bool) (significand : Nat) (exponent : Int)
  deriving DecidableEq, Repr

/-- The parts of a double: one sign bit, eleven bits of exponent, fifty-two of fraction. -/
def Binary.ofFloat (x : Float) : Binary :=
  let bits := x.toBits.toNat
  let negative := decide (2 ^ 63 ≤ bits)
  let biased : Nat := bits / 2 ^ 52 % 2 ^ 11
  let fraction := bits % 2 ^ 52
  if biased = 2047 then
    if fraction = 0 then .infinite negative else .nan
  else if biased = 0 then .finite negative fraction (-1074)
  else .finite negative (2 ^ 52 + fraction) ((biased : Int) - 1075)

/-! ## 2. Integers -/

/-- The whole part of `significand · 2^exponent`. -/
def wholePart (significand : Nat) (exponent : Int) : Nat :=
  if 0 ≤ exponent then significand * 2 ^ exponent.toNat else significand / 2 ^ (-exponent).toNat

/-- Whether `significand · 2^exponent` is a whole number. -/
def isWhole (significand : Nat) (exponent : Int) : Bool :=
  decide (0 ≤ exponent) || significand % 2 ^ (-exponent).toNat == 0

/-- The double rounded toward zero and held between two bounds. Infinities go to the bound on their side
and what is not a number to zero. -/
def truncateWithin (low high : Int) (x : Float) : Int :=
  match Binary.ofFloat x with
  | .nan => 0
  | .infinite negative => if negative then low else high
  | .finite negative m e =>
    let whole : Int := wholePart m e
    max low (min high (if negative then -whole else whole))

/-- The double rounded toward zero and held to the range of a 64-bit machine integer. -/
def truncateToWord (x : Float) : Int := truncateWithin (-(2 ^ 63)) (2 ^ 63 - 1) x

/-- The integer of a double that is one. -/
def whole? (x : Float) : Option Int :=
  match Binary.ofFloat x with
  | .finite negative m e =>
    if isWhole m e then
      let whole : Int := wholePart m e
      some (if negative then -whole else whole)
    else none
  | _ => none

end Stencil.Number
