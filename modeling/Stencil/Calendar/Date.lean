/-!
Dates.

A date is a year, a month and a day of the calendar that is in use today, reckoned forwards and backwards
without end; the year before 1 is 0. Every calculation goes over the day number, which counts days from the
first of January 1970. The year is taken to start in March for that, so that the leap day is its last day.
-/

namespace Stencil.Calendar

/-! ## 1. The calendar -/

/-- A date. -/
structure Date where
  year : Int
  month : Nat
  day : Nat
  deriving DecidableEq, Repr, Inhabited

/-- Whether a year has a leap day. -/
def isLeapYear (year : Int) : Bool := year % 4 == 0 && (year % 100 != 0 || year % 400 == 0)

/-- The number of days in a month. -/
def daysInMonth (year : Int) (month : Nat) : Nat :=
  if month = 2 then if isLeapYear year then 29 else 28
  else if month = 4 ∨ month = 6 ∨ month = 9 ∨ month = 11 then 30
  else 31

/-! ## 2. Day numbers -/

/-- The days from the first of January 1970 to a date. -/
def Date.dayNumber (date : Date) : Int :=
  let year := if date.month ≤ 2 then date.year - 1 else date.year
  let month : Int := (date.month + 9) % 12
  365 * year + year / 4 - year / 100 + year / 400 + (153 * month + 2) / 5 + date.day - 719469

/-- The date of a day number. -/
def Date.ofDayNumber (n : Int) : Date :=
  let fromMarch := n + 719468
  let era := fromMarch / 146097
  let day := fromMarch % 146097
  let year := (day - day / 1460 + day / 36524 - day / 146096) / 365
  let dayOfYear := day - (365 * year + year / 4 - year / 100)
  let month := (5 * dayOfYear + 2) / 153
  ⟨400 * era + year + (if month < 10 then 0 else 1), (if month < 10 then month + 3 else month - 9).toNat,
    (dayOfYear - (153 * month + 2) / 5 + 1).toNat⟩

/-- The day of the week of a day number; Sunday is 0. -/
def weekday (n : Int) : Int := (n + 4) % 7

/-- The day number of a weekday in the given week of a month. The fifth week is the last one. -/
def weekdayInMonth (year : Int) (month week day : Nat) : Int :=
  let first := Date.dayNumber ⟨year, month, 1⟩
  let found := first + (day - weekday first) % 7 + 7 * (week - 1)
  if found < first + daysInMonth year month then found else found - 7

/-! ## 3. Bounds -/

/-- The first year of the dates that are worked with. -/
def firstYear : Int := -262143

/-- The last year of the dates that are worked with. -/
def lastYear : Int := 262142

/-- The date of three numbers, when there is one. -/
def Date.ofParts? (year : Int) (month day : Nat) : Option Date :=
  if firstYear ≤ year ∧ year ≤ lastYear ∧ 1 ≤ month ∧ month ≤ 12 ∧ 1 ≤ day ∧ day ≤ daysInMonth year month then
    some ⟨year, month, day⟩
  else none

/-- The date so many months later. A day that the month does not have becomes its last one. -/
def Date.addMonths (date : Date) (months : Int) : Date :=
  let total := 12 * date.year + date.month - 1 + months
  let year := total / 12
  let month := (total % 12).toNat + 1
  ⟨year, month, min date.day (daysInMonth year month)⟩

end Stencil.Calendar
