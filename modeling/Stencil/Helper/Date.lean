import Stencil.Calendar.Pattern
import Stencil.Calendar.Reader
import Stencil.Calendar.Unit
import Stencil.Helper.Args
import Stencil.Helper.Setting

/-!
Date helpers.

Between helpers a date is text in the exchange format of universal time. What cannot be read as a date gives
null, while a unit that does not exist and a sum outside the calendar are errors. Where a local time is read or
shown the zone is an argument: the name of one, `server` for the configured one, or `browser` for the one that
the data of the render name.
-/

namespace Stencil.Helper.Date

open Stencil.Number Stencil.Calendar

/-- The names of these helpers, in the order of the catalogue. -/
def names : List String :=
  ["date.now", "date.parse", "date.format", "date.fromNow", "date.add", "date.diff"]

/-! ## 1. Arguments -/

/-- The zone that an argument asks for. A name that no zone has means the configured one. -/
def zoneOf (setting : Setting) : Option Value → Zone
  | none | some .null => setting.serverZone
  | some v =>
    let name := v.text
    if name = "" ∨ name = "server" then setting.serverZone
    else if name = "browser" then
      (((setting.scope.get? "timezone").bind Value.string?).bind Zone.find?).getD setting.serverZone
    else (Zone.find? name).getD setting.serverZone

/-- The named argument for the zone. -/
def namedZone (args : Args) : Option Value := args.named? "timezone"

/-- The argument for the zone, named or at a place. -/
def anyZone (args : Args) (i : Nat) : Option Value := (namedZone args).or args.positional[i]?

/-- The instant that a value stands for, a local time being one of the given zone. -/
def instant? (zone : Zone) : Value → Option Instant
  | .number x => if x.isFinite then Instant.ofMillis? (truncateToWord x) else none
  | .string s => Reader.instant? zone s
  | _ => none

/-- The unit that an argument names. -/
def unit (args : Args) (i : Nat) : HelperResult TimeUnit :=
  match TimeUnit.read? (args.textAt i) with
  | some unit => .ok unit
  | none => .error (.invalidArguments ("unknown date unit '" ++ args.textAt i ++ "'"))

/-- An instant by a pattern, by the clocks of a zone. -/
def format (pattern : String) (t : Instant) (zone : Zone) : String :=
  formatInstant pattern t (zone.offsetAt t)

/-! ## 2. Calculations -/

/-- The instant so many units later. Months and years are whole; a count of years becomes one of months in a
machine integer. -/
def later? (t : Instant) (amount : Float) (unit : TimeUnit) : Option Instant :=
  match unit with
  | .month => t.addMonths? (truncateToWord amount)
  | .year => t.addMonths? (Int.bmod (12 * truncateToWord amount) (2 ^ 64))
  | unit => t.addMillis? (truncateToWord (amount * Float.ofNat unit.millis).round)

/-- A double rounded toward zero. -/
def towardZero (x : Float) : Float := if x < 0 then x.ceil else x.floor

/-- The whole units from `b` to `a`, toward zero. -/
def difference (a b : Instant) (unit : TimeUnit) : Float :=
  match unit with
  | .month => Float.ofInt (a.monthsSince b)
  | .year => Float.ofInt ((a.monthsSince b).tdiv 12)
  | unit => towardZero (Float.ofInt (a.millisSince b) / Float.ofNat unit.millis)

/-! ## 3. Spans in words -/

/-- A word of the messages in the data. -/
def message? (scope : Scope) (key : String) : Option String :=
  (scope.lookup? ("i18n.time." ++ key)).bind Value.string?

/-- A word of the messages, or another where there is none. -/
def message (scope : Scope) (key other : String) : String := (message? scope key).getD other

/-- A span split over units: the most of each that fits, zeros left out, and no more than `most` parts. -/
def split (most : Nat) (millis : Nat) : List TimeUnit → List (Nat × TimeUnit)
  | [] => []
  | unit :: units =>
    match most with
    | 0 => []
    | rest + 1 =>
      if millis < unit.millis then split most millis units
      else (millis / unit.millis, unit) :: split rest (millis % unit.millis) units

/-- A number of units in words. -/
def counted (scope : Scope) (short : Bool) : Nat × TimeUnit → String
  | (count, unit) =>
    let number := toString count
    if short then number ++ unit.abbreviation
    else
      let word := if count = 1 then unit.word else unit.word ++ "s"
      number ++ " " ++ message scope word word

/-- A span of milliseconds from the present in words; below zero is the past. -/
def spanText (scope : Scope) (millis : Int) (most : Nat) (short : Bool) : String :=
  if millis.natAbs < TimeUnit.second.millis then message scope "now" "just now"
  else
    let parts := split most millis.natAbs TimeUnit.descending
    let span := " ".intercalate (parts.map (counted scope short))
    if millis < 0 then span ++ " " ++ message scope "ago" "ago"
    else message scope "in" "in" ++ " " ++ span

/-! ## 4. Calls -/

/-- The present, in the exchange format or by a pattern. -/
def now (args : Args) (setting : Setting) : Value :=
  match args.primary with
  | .null => .string setting.now.text
  | pattern => .string (format pattern.text setting.now (zoneOf setting (anyZone args 1)))

/-- A date in the exchange format. -/
def parse (args : Args) (setting : Setting) : Value :=
  .ofString? ((instant? (zoneOf setting (anyZone args 1)) args.primary).map Instant.text)

/-- The pattern of a call, named or second; the date and the time of the day when there is none. -/
def pattern (args : Args) : String :=
  ((args.namedText? "format").or (args.positional[1]?.map Value.text)).getD "%DATETIME%"

/-- A date by a pattern. -/
def formatted (args : Args) (setting : Setting) : Value :=
  let zone := zoneOf setting (anyZone args 2)
  .ofString? ((instant? zone args.primary).map fun t => format (pattern args) t zone)

/-- A date as seen from the present. -/
def fromNow (args : Args) (setting : Setting) : Value :=
  let units := match (args.named? "units").map Value.toNumber with
    | some x => if x.isFinite && 1 ≤ x then (truncateWithin 1 (2 ^ 64 - 1) x).toNat else 1
    | none => 1
  let short := args.namedText? "style" == some "short"
  .ofString? ((instant? (zoneOf setting (namedZone args)) args.primary).map fun t =>
    spanText setting.scope (t.millisSince setting.now) units short)

/-- A date so many units later. -/
def add (args : Args) (setting : Setting) : HelperResult Value := do
  args.require 3
  let unit ← unit args 2
  match instant? (zoneOf setting (namedZone args)) args.primary with
  | none => return .null
  | some t =>
    let amount := args.numberAt 1
    if !amount.isFinite then return .string t.text
    match later? t amount unit with
    | some t => return .string t.text
    | none => .error (.failed "date out of range")

/-- The units between two dates. -/
def diff (args : Args) (setting : Setting) : HelperResult Value := do
  args.require 2
  let unit ← if (args.get 2).isNull then .ok .millisecond else unit args 2
  let zone := zoneOf setting (namedZone args)
  match instant? zone (args.get 0), instant? zone (args.get 1) with
  | some a, some b => return .number (difference a b unit)
  | _, _ => return .null

/-- Whether a call asks for the exchange format of a local time that has none. -/
def overruns (method : String) (args : Args) (setting : Setting) : Bool :=
  let check (pattern : String) (t : Instant) (zone : Zone) : Bool := Calendar.overruns pattern t (zone.offsetAt t)
  match method with
  | "now" => !args.primary.isNull && check args.primary.text setting.now (zoneOf setting (anyZone args 1))
  | "format" =>
    let zone := zoneOf setting (anyZone args 2)
    (instant? zone args.primary).any fun t => check (pattern args) t zone
  | _ => false

/-- The value of a call; `none` when there is no such helper. -/
def call? (method : String) (args : Args) (setting : Setting) : Option (HelperResult Value) :=
  match method with
  | "now" => some (.ok (now args setting))
  | "parse" => some (.ok (parse args setting))
  | "format" => some (.ok (formatted args setting))
  | "fromNow" => some (.ok (fromNow args setting))
  | "add" => some (add args setting)
  | "diff" => some (diff args setting)
  | _ => none

end Stencil.Helper.Date
