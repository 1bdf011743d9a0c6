import Stencil.Calendar.Date
import Stencil.Number.Digits

/-!
Instants.

An instant is a whole second, counted from the start of 1970, and nanoseconds on top of it. A leap second has
no number of its own: it is the second before it with a thousand million nanoseconds or more. The same type
serves for the time that a clock on a wall shows, counted as if it showed universal time.
-/

namespace Stencil.Calendar

/-! ## 1. Instants -/

/-- A point in time. -/
structure Instant where
  seconds : Int
  nanos : Nat
  deriving DecidableEq, Repr, Inhabited

/-- The nanoseconds of a second. -/
def second : Nat := 1000000000

/-- The seconds of a day. -/
def daySeconds : Nat := 86400

namespace Instant

/-- The day number. -/
def day (t : Instant) : Int := t.seconds / daySeconds

/-- The second of the day. -/
def secondOfDay (t : Instant) : Nat := (t.seconds % daySeconds).toNat

/-- The date. -/
def date (t : Instant) : Date := .ofDayNumber t.day

/-- Whether the year is one that is worked with. -/
def inRange (t : Instant) : Bool :=
  let first := Date.dayNumber ⟨firstYear, 1, 1⟩
  let last := Date.dayNumber ⟨lastYear, 12, 31⟩
  first ≤ t.day && t.day ≤ last

/-- The instant, if its year is one that is worked with. -/
def inRange? (t : Instant) : Option Instant := if t.inRange then some t else none

/-- The instant of a number of milliseconds since the start of 1970. -/
def ofMillis? (ms : Int) : Option Instant := inRange? ⟨ms / 1000, (ms % 1000).toNat * 1000000⟩

/-- The milliseconds since the start of 1970; a leap second goes on where the second before it ends. -/
def millis (t : Instant) : Int := t.seconds * 1000 + t.nanos / 1000000

/-- The instant by a clock that is ahead by so many seconds. -/
def shift (t : Instant) (offset : Int) : Instant := { t with seconds := t.seconds + offset }

/-- Whether one instant is before another. -/
def isBefore (a b : Instant) : Bool := a.seconds < b.seconds || (a.seconds == b.seconds && a.nanos < b.nanos)

/-! ## 2. Sums and differences -/

/-- The instant so many milliseconds later. From a leap second, a step within it stays there, a step beyond it
starts from the same part of the second that follows, and a step back from the second itself. -/
def addMillis? (t : Instant) (ms : Int) : Option Instant :=
  let whole := ms.tdiv 1000
  let part := ms.tmod 1000 * 1000000
  let isLeap := decide (second ≤ t.nanos)
  let nanos : Int := t.nanos + part
  let leaves := 0 < whole || (0 < part && 2 * (second : Int) ≤ nanos)
  if isLeap && !leaves && whole == 0 then some ⟨t.seconds, nanos.toNat⟩
  else
    let start : Int := if isLeap && !leaves then t.seconds + 1 else t.seconds
    let nanos := if isLeap then nanos - second else nanos
    inRange? ⟨start + whole + nanos / second, (nanos % second).toNat⟩

/-- The instant so many months later, at the same time of the day. -/
def addMonths? (t : Instant) (months : Int) : Option Instant :=
  if 2 ^ 31 ≤ months.natAbs then none
  else inRange? ⟨(t.date.addMonths months).dayNumber * daySeconds + t.secondOfDay, t.nanos⟩

/-- The milliseconds from `b` to `a`, toward zero. A leap second that lies between the two times of the day
counts. -/
def millisSince (a b : Instant) : Int :=
  let leap : Int :=
    if b.secondOfDay < a.secondOfDay ∧ second ≤ b.nanos then 1
    else if a.secondOfDay < b.secondOfDay ∧ second ≤ a.nanos then -1
    else 0
  (((a.seconds - b.seconds + leap) * second + a.nanos - b.nanos).tdiv 1000000)

/-- The whole months from an instant to a later one. -/
def monthsUntil (b a : Instant) : Int :=
  let months := 12 * (a.date.year - b.date.year) + a.date.month - b.date.month
  match (if 0 ≤ months then b.addMonths? months else none) with
  | some shifted => if a.isBefore shifted then months - 1 else months
  | none => months

/-- The whole months from `b` to `a`, toward zero. -/
def monthsSince (a b : Instant) : Int := if a.isBefore b then -(a.monthsUntil b) else b.monthsUntil a

end Instant

end Stencil.Calendar
