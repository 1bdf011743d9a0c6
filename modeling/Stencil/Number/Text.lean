import Stencil.Number.Shortest

/-!
How numbers are written.

There are two notations. `text` is the one for output and for coercion to a string: positional always, no
fraction for whole numbers, and no sign on zero. `realText` is the one inside JSON documents: it keeps a
fraction on whole numbers and goes over to powers of ten outside `1e-5 ≤ |x| < 1e16`.
-/

namespace Stencil.Number

/-! ## 1. Output -/

/-- The text of a number in output. Whole numbers below `10^21` are written exactly, all others with their
shortest digits, never with an exponent. Equally near digits go up. -/
def text (x : Float) : String :=
  match Binary.ofFloat x with
  | .nan => "NaN"
  | .infinite negative => if negative then "-Infinity" else "Infinity"
  | .finite negative m e =>
    if m = 0 then "0"
    else
      let body :=
        if isWhole m e && decide (wholePart m e < 10 ^ 21) then digits (wholePart m e)
        else (shortest .up m e).positional
      .ofList (if negative then '-' :: body else body)

/-! ## 2. Inside JSON -/

/-- The text of a finite real in a JSON document. Equally near digits go to the even one. -/
def realText (x : Float) : String :=
  match Binary.ofFloat x with
  | .finite negative m e =>
    let body :=
      if m = 0 then ['0', '.', '0']
      else
        let d := shortest .toEven m e
        let point : Int := d.exponent + (digits d.digits).length
        if -5 < point ∧ point ≤ 16 then
          if 0 ≤ d.exponent then d.positional ++ ['.', '0'] else d.positional
        else d.scientific
    .ofList (if negative then '-' :: body else body)
  | _ => "null"

end Stencil.Number
