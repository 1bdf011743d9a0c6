/-!
Units of time.

A unit has short names, in which letter case tells minutes from months, and long names, in which it does not
count. Months and years have no fixed length; where one is needed they count as 30 and 365 days.
-/

namespace Stencil.Calendar

/-- A unit of time. -/
inductive TimeUnit where
  | millisecond
  | second
  | minute
  | hour
  | day
  | week
  | month
  | year
  deriving DecidableEq, Repr

namespace TimeUnit

/-- The unit of a name. -/
def read? (name : String) : Option TimeUnit :=
  match name with
  | "ms" => some .millisecond
  | "s" => some .second
  | "m" => some .minute
  | "h" => some .hour
  | "d" => some .day
  | "w" => some .week
  | "M" => some .month
  | "y" => some .year
  | _ =>
    match String.ofList (name.toList.map Char.toLower) with
    | "millisecond" | "milliseconds" => some .millisecond
    | "sec" | "secs" | "second" | "seconds" => some .second
    | "min" | "mins" | "minute" | "minutes" => some .minute
    | "hour" | "hours" => some .hour
    | "day" | "days" => some .day
    | "week" | "weeks" => some .week
    | "month" | "months" => some .month
    | "year" | "years" => some .year
    | _ => none

/-- The length in milliseconds. -/
def millis : TimeUnit → Nat
  | .millisecond => 1
  | .second => 1000
  | .minute => 60000
  | .hour => 3600000
  | .day => 86400000
  | .week => 7 * 86400000
  | .month => 30 * 86400000
  | .year => 365 * 86400000

/-- The word for one of it. -/
def word : TimeUnit → String
  | .millisecond => "millisecond"
  | .second => "second"
  | .minute => "minute"
  | .hour => "hour"
  | .day => "day"
  | .week => "week"
  | .month => "month"
  | .year => "year"

/-- The letters that stand for it behind a number. -/
def abbreviation : TimeUnit → String
  | .millisecond => "ms"
  | .second => "s"
  | .minute => "m"
  | .hour => "h"
  | .day => "d"
  | .week => "w"
  | .month => "mo"
  | .year => "y"

/-- The units that spans of time are told in, longest first. -/
def descending : List TimeUnit := [.year, .month, .week, .day, .hour, .minute, .second]

end TimeUnit

end Stencil.Calendar
