import Stencil.Calendar.Instant
import Stencil.Number.Digits
import Stencil.Text.Basic

/-!
Dates as text.

A pattern is text with tokens between percent signs. A token that has no meaning is copied, and so is a percent
sign without a partner; the second sign of a meaningless token may open the next one.
-/

namespace Stencil.Calendar

open Stencil.Text Stencil.Number

/-! ## 1. Parts of a date -/

/-- A year of four digits; one that needs more, or lies before the year 0, has a sign. -/
def yearText (year : Int) : List Char :=
  if 0 ≤ year ∧ year < 10000 then padded 4 year.toNat
  else if year < 0 then '-' :: padded 4 year.natAbs
  else '+' :: padded 4 year.natAbs

/-- A date in numbers. -/
def dateText (date : Date) : List Char :=
  yearText date.year ++ '-' :: padded 2 date.month ++ '-' :: padded 2 date.day

/-- The second within the minute; sixty in a leap second. -/
def secondText (shown : Instant) : List Char :=
  padded 2 (shown.secondOfDay % 60 + shown.nanos / second)

/-- The hour of the day. -/
def hourText (shown : Instant) : List Char := padded 2 (shown.secondOfDay / 3600)

/-- The minute of the hour. -/
def minuteText (shown : Instant) : List Char := padded 2 (shown.secondOfDay / 60 % 60)

/-- The time of the day. -/
def timeText (shown : Instant) : List Char :=
  hourText shown ++ ':' :: minuteText shown ++ ':' :: secondText shown

/-- An offset in hours and minutes, rounded to the minute. -/
def offsetText (offset : Int) : List Char :=
  if offset = 0 then ['Z']
  else
    let minutes := (offset.natAbs + 30) / 60
    (if offset < 0 then '-' else '+') :: padded 2 (minutes / 60) ++ ':' :: padded 2 (minutes % 60)

/-- An instant in the exchange format, by clocks with the given offset. -/
def exchangeText (t : Instant) (offset : Int) : List Char :=
  let shown := t.shift offset
  dateText shown.date ++ 'T' :: timeText shown ++ '.' :: padded 3 (shown.nanos % second / 1000000) ++
    offsetText offset

/-! ## 2. Patterns -/

/-- What a token of a pattern asks for. -/
inductive PatternToken where
  | year | month | day | hour | minute | second | millis | exchange | date | time | dateTime
  deriving DecidableEq, Repr

/-- The token of a name. -/
def PatternToken.ofName? (name : List Char) : Option PatternToken :=
  match String.ofList name with
  | "Y" => some .year
  | "M" => some .month
  | "D" => some .day
  | "H" => some .hour
  | "MIN" => some .minute
  | "SEC" => some .second
  | "MS" => some .millis
  | "ISO" => some .exchange
  | "DATE" => some .date
  | "TIME" => some .time
  | "DATETIME" => some .dateTime
  | _ => none

/-- What a token stands for, at an instant by clocks with the given offset. -/
def PatternToken.text (t : Instant) (offset : Int) (token : PatternToken) : List Char :=
  let shown := t.shift offset
  match token with
  | .year => yearText shown.date.year
  | .month => padded 2 shown.date.month
  | .day => padded 2 shown.date.day
  | .hour => hourText shown
  | .minute => minuteText shown
  | .second => secondText shown
  | .millis => padded 3 (shown.nanos / 1000000)
  | .exchange => exchangeText t offset
  | .date => dateText shown.date
  | .time => timeText shown
  | .dateTime => dateText shown.date ++ ' ' :: timeText shown

/-- A piece of a pattern: a character that stands for itself, or a token. -/
inductive PatternPiece where
  | char (c : Char)
  | token (token : PatternToken)
  deriving DecidableEq, Repr

/-- What a piece stands for, at an instant by clocks with the given offset. -/
def PatternPiece.text (t : Instant) (offset : Int) : PatternPiece → List Char
  | .char c => [c]
  | .token asked => asked.text t offset

/-- The pieces of a pattern. -/
def patternPieces (cs : List Char) : List PatternPiece :=
  match cs with
  | [] => []
  | c :: rest =>
    if c = '%' then
      match _h : cutAt? ['%'] rest with
      | none => .char c :: patternPieces rest
      | some (name, after) =>
        match PatternToken.ofName? name with
        | some token => .token token :: patternPieces after
        | none => .char c :: patternPieces rest
    else .char c :: patternPieces rest
termination_by cs.length
decreasing_by
  · simp
  · have := length_of_cutAt? _h
    simp only [List.length_cons, List.length_nil] at this ⊢
    omega
  · simp
  · simp

/-- An instant by a pattern, by clocks with the given offset. -/
def formatInstant (pattern : String) (t : Instant) (offset : Int) : String :=
  .ofList ((patternPieces pattern.toList).flatMap (·.text t offset))

/-- Whether a pattern asks for the exchange format of a local time that has none, because its date lies outside
the calendar. -/
def overruns (pattern : String) (t : Instant) (offset : Int) : Bool :=
  !(t.shift offset).inRange && (patternPieces pattern.toList).contains (.token .exchange)

/-- An instant in the exchange format of universal time. -/
def Instant.text (t : Instant) : String := .ofList (exchangeText t 0)

end Stencil.Calendar
