import Stencil.Calendar.Zone
import Stencil.Number.Binary
import Stencil.Number.Numeral

/-!
Reading dates.

A text that looks like a number counts milliseconds. A text in the exchange format, with every part at full
width and an offset at its end, is an instant by itself. All other forms show a local time and need a zone: a
date, with hours and minutes behind a `T` or blanks or without, with seconds or without. In them leading zeros
may be missing, blanks may stand before each number, and years may have a sign and any number of digits.
-/

namespace Stencil.Calendar.Reader

open Stencil.Text Stencil.Number

/-! ## 1. Parts -/

/-- What follows a character that has to stand at the front. -/
def exactly? (c : Char) : List Char → Option (List Char)
  | d :: cs => if c = d then some cs else none
  | [] => none

/-- The number at the front, of at least `least` digits and of no more than `most`, and the rest. Of a number with
more than nine digits no more is known than that it is too large for any part of a date. -/
def number? (least most : Nat) (cs : List Char) : Option (Nat × List Char) :=
  let ds := (cs.take most).takeWhile Char.isDigit
  if ds.length < least then none else (capped? (10 ^ 9) ds).map fun n => (n, cs.drop ds.length)

/-- The nanoseconds that the digits after a point stand for, and the rest. Digits beyond the ninth do not
count. -/
def fraction? (cs : List Char) : Option (Nat × List Char) :=
  let (ds, rest) := spanDigits cs
  (value? (ds.take 9)).map fun n => (n * 10 ^ (9 - ds.length), rest)

/-- The nanoseconds at the front, if there is a point. -/
def optionalFraction? : List Char → Option (Nat × List Char)
  | '.' :: cs => fraction? cs
  | cs => some (0, cs)

/-- The instant at which a clock of universal time shows the given parts. The sixtieth second is a leap
second. -/
def ofParts? (date : Date) (hour minute second nanos : Nat) : Option Instant :=
  if hour < 24 ∧ minute < 60 ∧ second ≤ 60 then
    let seconds := date.dayNumber * daySeconds + (3600 * hour + 60 * minute + min second 59 : Nat)
    some ⟨seconds, if second = 60 then nanos + Calendar.second else nanos⟩
  else none

/-! ## 2. The exchange format -/

/-- The offset in seconds that a text is. -/
def offset? : List Char → Option Int
  | ['Z'] | ['z'] => some 0
  | sign :: cs => do
    let negative ← if sign = '+' then some false
      else if sign = '-' ∨ sign = '\u2212' then some true else none
    let (hours, cs) ← number? 2 2 cs
    let cs ← exactly? ':' cs
    let (minutes, cs) ← number? 2 2 cs
    guard (cs.isEmpty ∧ hours < 24 ∧ minutes < 60)
    let seconds : Int := 3600 * hours + 60 * minutes
    return if negative then -seconds else seconds
  | [] => none

/-- The instant that a text in the exchange format is. -/
def exchange? (cs : List Char) : Option Instant := do
  let (year, cs) ← number? 4 4 cs
  let cs ← exactly? '-' cs
  let (month, cs) ← number? 2 2 cs
  let cs ← exactly? '-' cs
  let (day, cs) ← number? 2 2 cs
  let between ← cs.head?
  guard (between = 'T' ∨ between = 't' ∨ between = ' ')
  let (hour, cs) ← number? 2 2 (cs.drop 1)
  let cs ← exactly? ':' cs
  let (minute, cs) ← number? 2 2 cs
  let cs ← exactly? ':' cs
  let (second, cs) ← number? 2 2 cs
  let (nanos, cs) ← optionalFraction? cs
  let offset ← offset? cs
  let date ← Date.ofParts? year month day
  let shown ← ofParts? date hour minute second nanos
  return shown.shift (-offset)

/-! ## 3. Local forms -/

/-- A number of one or two digits behind blanks, and the rest. -/
def loose? (cs : List Char) : Option (Nat × List Char) := number? 1 2 (trimStart cs)

/-- A year behind blanks, and the rest. -/
def year? (cs : List Char) : Option (Int × List Char) :=
  match trimStart cs with
  | '-' :: cs => (number? 1 cs.length cs).map fun (n, cs) => (-(n : Int), cs)
  | '+' :: cs => (number? 1 cs.length cs).map fun (n, cs) => ((n : Int), cs)
  | cs => (number? 1 4 cs).map fun (n, cs) => ((n : Int), cs)

/-- A date, and the rest. -/
def date? (cs : List Char) : Option (Date × List Char) := do
  let (year, cs) ← year? cs
  let cs ← exactly? '-' cs
  let (month, cs) ← loose? cs
  let cs ← exactly? '-' cs
  let (day, cs) ← loose? cs
  return (← Date.ofParts? year month day, cs)

/-- Seconds and nanoseconds behind a colon, or neither. -/
def seconds? : List Char → Option (Nat × Nat)
  | [] => some (0, 0)
  | ':' :: cs => do
    let (second, cs) ← loose? cs
    let (nanos, cs) ← optionalFraction? cs
    guard cs.isEmpty
    return (second, nanos)
  | _ => none

/-- The time of a day that a text is. -/
def time? (date : Date) (cs : List Char) : Option Instant := do
  let (hour, cs) ← loose? cs
  let cs ← exactly? ':' cs
  let (minute, cs) ← loose? cs
  let (second, nanos) ← seconds? cs
  ofParts? date hour minute second nanos

/-- The local time that a text is. -/
def local? (cs : List Char) : Option Instant := do
  let (date, cs) ← date? cs
  match cs with
  | [] => ofParts? date 0 0 0 0
  | 'T' :: cs => time? date cs
  | cs => time? date cs

/-! ## 4. All forms -/

/-- The instant that a text stands for, a local time being one of the given zone. -/
def instant? (zone : Zone) (text : String) : Option Instant :=
  let cs := trim text.toList
  if looksNumeric cs then Instant.ofMillis? (truncateToWord (parse (.ofList cs)))
  else (exchange? cs).or ((local? cs).bind zone.instantOf?)

end Stencil.Calendar.Reader
