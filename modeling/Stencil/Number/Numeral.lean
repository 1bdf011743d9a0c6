import Stencil.Number.Digits
import Stencil.Text.Blank

/-!
Reading numbers.

A numeral is digits with an optional fraction and an optional power of ten. `Numeral.read?` takes one off the
front of a text, `Numeral.toFloat` is the double nearest to it, and on top of them stand the two readers: the
general one of floating point text (`readFloat?`, which also knows infinities and what is not a number), and
`parse`, the lenient one that templates coerce strings with.
-/

namespace Stencil.Number

open Stencil.Text

/-! ## 1. Numerals -/

/-- An unsigned decimal numeral: the digits before and after the point, and the power of ten. -/
structure Numeral where
  whole : List Char
  fraction : List Char
  exponent : Int
  deriving DecidableEq, Repr

/-- The leading digits and the rest. -/
def spanDigits (cs : List Char) : List Char × List Char :=
  (cs.takeWhile Char.isDigit, cs.dropWhile Char.isDigit)

/-- A sign, read as whether it is a minus, and the rest. -/
def signOf : List Char → Bool × List Char
  | '-' :: cs => (true, cs)
  | '+' :: cs => (false, cs)
  | cs => (false, cs)

/-- The limit of powers of ten: digits of a power that follow the one with which it reaches the limit do not
count. -/
def powerLimit : Nat := 2 ^ 16

/-- A power of ten that takes up the whole text: nothing, or `e`, an optional sign and digits. -/
def readExponent? : List Char → Option Int
  | [] => some 0
  | c :: cs =>
    if c = 'e' ∨ c = 'E' then
      let (negative, ds) := signOf cs
      (capped? powerLimit ds).map fun n => if negative then -(n : Int) else n
    else none

/-- A numeral that takes up the whole text. At least one digit stands before or after the point. -/
def Numeral.read? (cs : List Char) : Option Numeral :=
  let (whole, rest) := spanDigits cs
  let (fraction, rest) := match rest with
    | '.' :: rest => spanDigits rest
    | rest => ([], rest)
  if whole.isEmpty && fraction.isEmpty then none
  else (readExponent? rest).map fun e => ⟨whole, fraction, e⟩

/-- How many digits decide about the nearest double. No double, and no middle between two of them, has more
digits than that, so of the digits behind them it matters only whether all are zero. -/
def decisiveDigits : Nat := 800

/-- The numeral as `significand · 10^power`. Of a long one the digits that decide are kept, with a one behind them
to stand for whatever is not zero. -/
def Numeral.scientific (n : Numeral) : Nat × Int :=
  let ds := (n.whole ++ n.fraction).dropWhile (· == '0')
  let kept := (valueFrom? 0 (ds.take decisiveDigits)).getD 0
  let power := n.exponent - n.fraction.length
  match ds.drop decisiveDigits with
  | [] => (kept, power)
  | c :: cs => (10 * kept + if (c :: cs).all (· == '0') then 0 else 1, power + cs.length)

/-- The double nearest to `significand · 10^power`. Powers that are far out of range are settled first, by
the number of digits, so that no great power of ten is ever formed. -/
def floatOfScientific (significand : Nat) (power : Int) : Float :=
  if significand = 0 then 0
  else
    let magnitude : Int := (digits significand).length + power
    if magnitude > 310 then 1.0 / 0.0
    else if magnitude < -330 then 0
    else Float.ofScientific significand (decide (power < 0)) power.natAbs

/-- The double nearest to the numeral. -/
def Numeral.toFloat (n : Numeral) : Float :=
  let (significand, power) := n.scientific
  floatOfScientific significand power

/-- The single-precision number nearest to the numeral. -/
def Numeral.toFloat32 (n : Numeral) : Float32 :=
  let (significand, power) := n.scientific
  let magnitude : Int := (digits significand).length + power
  if significand = 0 ∨ magnitude < -60 then 0
  else if magnitude > 50 then 1.0 / 0.0
  else Float32.ofScientific significand (decide (power < 0)) power.natAbs

/-! ## 2. Floating point text -/

/-- Floating point text without its sign: a numeral, or the name of what no numeral can say. -/
inductive FloatText where
  | numeral (n : Numeral)
  | infinity
  | nan
  deriving DecidableEq, Repr

/-- What a name says, in any letter case. -/
def FloatText.named? (cs : List Char) : Option FloatText :=
  let lower := String.ofList (cs.map Char.toLower)
  if lower = "inf" ∨ lower = "infinity" then some .infinity
  else if lower = "nan" then some .nan
  else none

/-- What a text without a sign says. -/
def FloatText.read? (cs : List Char) : Option FloatText :=
  match Numeral.read? cs with
  | some n => some (.numeral n)
  | none => named? cs

/-- The double that is said. -/
def FloatText.toFloat : FloatText → Float
  | .numeral n => n.toFloat
  | .infinity => 1.0 / 0.0
  | .nan => 0.0 / 0.0

/-- The single-precision number that is said. -/
def FloatText.toFloat32 : FloatText → Float32
  | .numeral n => n.toFloat32
  | .infinity => 1.0 / 0.0
  | .nan => 0.0 / 0.0

/-- The double that a text stands for, with or without a sign. -/
def readFloat? (cs : List Char) : Option Float :=
  let (negative, body) := signOf cs
  (FloatText.read? body).map fun t => if negative then -t.toFloat else t.toFloat

/-- The single-precision number that a text stands for, with or without a sign. -/
def readFloat32? (cs : List Char) : Option Float32 :=
  let (negative, body) := signOf cs
  (FloatText.read? body).map fun t => if negative then -t.toFloat32 else t.toFloat32

/-! ## 3. Template numbers -/

/-- Whether a token is a plain decimal number such as `12`, `-3.5`, `.5` or `1e3`. The names of infinities
are not. -/
def looksNumeric (token : List Char) : Bool :=
  let body := (signOf token).2
  let startsWell := match body with
    | c :: _ => c.isDigit || c == '.'
    | [] => false
  startsWell &&
    body.all (fun c => c.isDigit || c == '.' || c == 'e' || c == 'E' || c == '-' || c == '+') &&
    (readFloat? body).isSome

/-- A string as a number: blank text is zero, and what is neither a plain decimal number nor an infinity
written out is not a number. -/
def parse (s : String) : Float :=
  let cs := trim s.toList
  let nan : Float := 0.0 / 0.0
  if cs.isEmpty then 0
  else if looksNumeric cs then (readFloat? cs).getD nan
  else
    let word := String.ofList cs
    if word = "Infinity" ∨ word = "+Infinity" then 1.0 / 0.0
    else if word = "-Infinity" then -1.0 / 0.0
    else nan

/-! ## 4. Indices -/

/-- A list index: digits with an optional plus sign, within the range of a machine word. -/
def readIndex? (cs : List Char) : Option Nat :=
  let ds := match cs with
    | '+' :: ds => ds
    | ds => ds
  (value? ds).filter (· < 2 ^ 64)

end Stencil.Number
