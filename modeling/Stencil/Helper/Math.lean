import Stencil.Helper.Args
import Stencil.Number.Arithmetic

/-!
Arithmetic helpers.

What is not a number counts as zero, and a division by zero gives zero: a bad number in the data does not
spoil a page.
-/

namespace Stencil.Helper.Math

open Stencil.Number

/-- The names of these helpers, in the order of the catalogue. -/
def names : List String :=
  ["math.add", "math.subtract", "math.multiply", "math.divide", "math.min", "math.max", "math.mod",
    "math.round", "math.floor", "math.ceil"]

/-- An argument as a number that is one. -/
def operand (v : Value) : Float :=
  let x := v.toNumber
  if x.isNaN then 0 else x

/-- The positional arguments as numbers. -/
def operands (args : Args) : List Float := args.positional.map operand

/-- What an operation gives. One that has no answer, such as infinity less infinity, gives what is not a number,
with a minus sign. -/
def result (x : Float) : Value := if x.isNaN then .minusNan else .number x

/-- The numbers put together from the left; zero when there are none. -/
def reduce (op : Float → Float → Float) : List Float → Float
  | [] => 0
  | x :: xs => xs.foldl op x

/-- The first number divided by all others, or zero when one of them is. -/
def quotient : List Float → Float
  | [] => 0
  | x :: xs => if xs.any (· == 0) then 0 else xs.foldl (· / ·) x

/-- The number of places to round to. -/
def places (args : Args) : Nat :=
  match (args.named? "precision").map Value.toNumber with
  | some x => if x.isFinite then (truncateWithin 0 15 x).toNat else 0
  | none => 0

/-- The value of a call; `none` when there is no such helper. -/
def call? (method : String) (args : Args) : Option (HelperResult Value) :=
  let xs := operands args
  let first := xs.headD 0
  let found (x : Float) : Option (HelperResult Value) := some (.ok (result x))
  match method with
  | "add" => found (xs.foldl (· + ·) minusZero)
  | "subtract" => found (reduce (· - ·) xs)
  | "multiply" => found (reduce (· * ·) xs)
  | "divide" => found (quotient xs)
  | "min" => found (reduce smaller xs)
  | "max" => found (reduce larger xs)
  | "mod" => some <| do
    args.require 2
    let y := xs.getD 1 0
    return result (if y == 0 then 0 else remainder first y)
  | "round" => found (roundHalfUp first (places args))
  | "floor" => found first.floor
  | "ceil" => found first.ceil
  | _ => none

end Stencil.Helper.Math
