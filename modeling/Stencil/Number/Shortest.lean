import Stencil.Number.Binary
import Stencil.Number.Digits

/-!
The fewest decimal digits that read back.

A double stands for every real that rounds to it: the reals from half way to its lower neighbour up to half
way to its upper one, both ends included when its significand is even. Its shortest decimal is the decimal
with the fewest digits in that interval, and of several the one nearest to the double itself. All of this is
whole number arithmetic over one common denominator.

The interval reaches down only a quarter of a step where the significand is the least one of its exponent,
because the doubles below lie twice as dense.
-/

namespace Stencil.Number

/-! ## 1. The reals that round to a double -/

/-- The reals from `low / den` to `high / den`, around `value / den`. -/
structure Rounding where
  low : Nat
  value : Nat
  high : Nat
  den : Nat
  closed : Bool

/-- The interval of the double `significand · 2^exponent`. -/
def Rounding.of (significand : Nat) (exponent : Int) : Rounding :=
  let below := if significand = 2 ^ 52 ∧ -1074 < exponent then 1 else 2
  let up := 2 ^ (exponent - 2).toNat
  let down := 2 ^ (2 - exponent).toNat
  { low := (4 * significand - below) * up
    value := 4 * significand * up
    high := (4 * significand + 2) * up
    den := down
    closed := significand % 2 == 0 }

/-- A decimal `digits · 10^exponent`. -/
structure Decimal where
  digits : Nat
  exponent : Int
  deriving DecidableEq, Repr

/-- The decimal as a numerator over the interval's denominator times the second number. -/
def Decimal.over (d : Decimal) (r : Rounding) : Nat × Nat :=
  (d.digits * 10 ^ d.exponent.toNat * r.den, 10 ^ (-d.exponent).toNat)

/-- Whether the decimal lies in the interval. -/
def Rounding.contains (r : Rounding) (d : Decimal) : Bool :=
  let (n, scale) := d.over r
  if r.closed then decide (r.low * scale ≤ n ∧ n ≤ r.high * scale)
  else decide (r.low * scale < n ∧ n < r.high * scale)

/-! ## 2. The search -/

/-- How to choose between two decimals that are equally near. -/
inductive Tie where
  | up
  | toEven
  deriving DecidableEq, Repr

/-- The multiple of `10^exponent` in the interval that is nearest to the double: one of its two
neighbours on that grid, if either lies in the interval. -/
def Rounding.onGrid? (r : Rounding) (tie : Tie) (exponent : Int) : Option Decimal :=
  let unit := r.den * 10 ^ exponent.toNat
  let scaled := r.value * 10 ^ (-exponent).toNat
  let lower : Decimal := ⟨scaled / unit, exponent⟩
  let upper : Decimal := ⟨scaled / unit + 1, exponent⟩
  let twice := 2 * (scaled % unit)
  let lowerFirst := decide (twice < unit) ||
    (twice == unit && (match tie with | .up => false | .toEven => lower.digits % 2 == 0))
  let (first, second) := if lowerFirst then (lower, upper) else (upper, lower)
  if r.contains first then some first
  else if r.contains second then some second
  else none

/-- The exponent `p` with `10^(p-1) ≤ value / den < 10^p`. -/
def Rounding.magnitude (r : Rounding) : Int :=
  let p : Int := (digits r.value).length - (digits r.den).length
  if r.den * 10 ^ p.toNat ≤ r.value * 10 ^ (-p).toNat then p + 1 else p

/-- The first hit on the grids with `count`, `count + 1`, … digits, `left` grids at most. -/
def Rounding.search (r : Rounding) (tie : Tie) : (left count : Nat) → Decimal
  | 0, count => ⟨r.value * 10 ^ (count - r.magnitude).toNat / (r.den * 10 ^ (r.magnitude - count).toNat),
      r.magnitude - count⟩
  | left + 1, count =>
    match r.onGrid? tie (r.magnitude - count) with
    | some d => d
    | none => r.search tie left (count + 1)

/-- The decimal without the zeros at the end of its digits. -/
def Decimal.normal (d : Decimal) : Decimal :=
  if h : 0 < d.digits ∧ d.digits % 10 = 0 then Decimal.normal ⟨d.digits / 10, d.exponent + 1⟩ else d
termination_by d.digits
decreasing_by exact Nat.div_lt_self h.1 (by decide)

/-- The shortest decimal of the double `significand · 2^exponent` with a significand above zero. Seventeen
digits are always enough. -/
def shortest (tie : Tie) (significand : Nat) (exponent : Int) : Decimal :=
  ((Rounding.of significand exponent).search tie 17 1).normal

/-! ## 3. Writing -/

/-- The decimal in positional notation, with a point only when it has a fraction. -/
def Decimal.positional (d : Decimal) : List Char :=
  let ds := Number.digits d.digits
  if 0 ≤ d.exponent then ds ++ List.replicate d.exponent.toNat '0'
  else
    let places := (-d.exponent).toNat
    if places < ds.length then ds.take (ds.length - places) ++ '.' :: ds.drop (ds.length - places)
    else '0' :: '.' :: (List.replicate (places - ds.length) '0' ++ ds)

/-- The decimal with one digit before the point and a signed power of ten. -/
def Decimal.scientific (d : Decimal) : List Char :=
  let ds := Number.digits d.digits
  let power : Int := d.exponent + ds.length - 1
  let mantissa := match ds with
    | [c] => [c]
    | c :: cs => c :: '.' :: cs
    | [] => []
  mantissa ++ 'e' :: (if power < 0 then '-' else '+') :: Number.digits power.natAbs

end Stencil.Number
