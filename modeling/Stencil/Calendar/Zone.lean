import Stencil.Calendar.Instant
import Stencil.Calendar.Zone.Tables
import Stencil.Number.Digits
import Stencil.Text.Blank

/-!
Time zones.

A zone is the offset of its clocks and the instants at which it changed or will change; changes are known to
the end of 2099 and none come after. Instants have exactly one local time, while a local time can be that of
no instant, when clocks are put forward, or of two, when they are put back; of two the earlier one is meant.
-/

namespace Stencil.Calendar

open Stencil.Text

/-! ## 1. Zones -/

/-- A time zone: its name, the offset before the first change, and the changes, each with the second at which
it happens and the offset from then on, in ascending order. -/
structure Zone where
  name : String
  first : Int
  changes : List (Int × Int)
  deriving DecidableEq, Repr, Inhabited

namespace Zone

/-- Universal time. -/
def utc : Zone := ⟨"UTC", 0, []⟩

/-- The offset in force at a second, after the given one and the given changes. -/
def offsetFrom (seconds : Int) (offset : Int) : List (Int × Int) → Int
  | [] => offset
  | (start, next) :: changes => if seconds < start then offset else offsetFrom seconds next changes

/-- The offset in force at an instant. -/
def offsetAt (zone : Zone) (t : Instant) : Int := offsetFrom t.seconds zone.first zone.changes

/-- The first second not before `start` at which clocks with the given changes show a local second. -/
def secondOfLocal? (wanted : Int) (start : Option Int) (offset : Int) : List (Int × Int) → Option Int
  | [] => if start.all (· ≤ wanted - offset) then some (wanted - offset) else none
  | (stop, next) :: changes =>
    if start.all (· ≤ wanted - offset) && wanted - offset < stop then some (wanted - offset)
    else secondOfLocal? wanted (some stop) next changes

/-- The instant at which clocks show a local time. -/
def instantOf? (zone : Zone) (shown : Instant) : Option Instant :=
  (secondOfLocal? shown.seconds none zone.first zone.changes).bind fun seconds =>
    Instant.inRange? ⟨seconds, shown.nanos⟩

/-! ## 2. Records -/

/-- The value of a digit to the base of 36. -/
def digitValue (c : Char) : Nat := if c.isDigit then c.toNat - 48 else c.toNat - 87

/-- A number to the base of 36. -/
def number36 (cs : List Char) : Nat := cs.foldl (fun n c => 36 * n + digitValue c) 0

/-- An integer in decimal digits. -/
def integer (cs : List Char) : Int :=
  match cs with
  | '-' :: ds => -(((Number.value? ds).getD 0 : Nat) : Int)
  | ds => ((Number.value? ds).getD 0 : Nat)

/-- The offset that a capital letter stands for. -/
def offsetOf (offsets : List Int) (c : Char) : Int := offsets.getD (c.toNat - 65) 0

/-- The start of 1800, from which the first change counts. -/
def origin : Int := -5364662400

/-- The recorded changes after the second `last`. A capital letter starts a change; `pending` is the one being
read, its offset and its digits in reverse. -/
def recorded (offsets : List Int) (last : Int) (pending : Option (Int × List Char)) :
    List Char → List (Int × Int)
  | [] => (close pending).toList
  | c :: cs =>
    if c.isUpper then
      let read := close pending
      read.toList ++ recorded offsets ((read.map (·.1)).getD last) (some (offsetOf offsets c, [])) cs
    else recorded offsets last (pending.map fun (offset, ds) => (offset, c :: ds)) cs
where
  /-- The change that was read. -/
  close (pending : Option (Int × List Char)) : Option (Int × Int) :=
    pending.map fun (offset, ds) =>
      let parts := splitOn (· == '.') ds.reverse
      (last + 60 * number36 (parts.headD []) + number36 (parts.getD 1 []), offset)

/-- A change that happens every year. -/
structure Yearly where
  offset : Int
  month : Nat
  week : Nat
  weekday : Nat
  minute : Int

/-- A yearly change as it is written in a record. -/
def Yearly.read (offsets : List Int) (cs : List Char) : Yearly :=
  let parts := splitOn (fun c => c == '.' || c == '/') (cs.drop 1)
  let part (i : Nat) : Nat := (integer (parts.getD i [])).toNat
  ⟨offsetOf offsets (cs.headD 'A'), part 0, part 1, part 2, integer (parts.getD 3 [])⟩

/-- A yearly change in one year, by clocks with the offset that it ends. -/
def Yearly.inYear (rule : Yearly) (before : Int) (year : Int) : Int × Int :=
  (weekdayInMonth year rule.month rule.week rule.weekday * daySeconds + 60 * rule.minute - before, rule.offset)

/-- The changes of two yearly rules in one year, in ascending order. -/
def changesInYear (a b : Yearly) (year : Int) : List (Int × Int) :=
  let x := a.inYear b.offset year
  let y := b.inYear a.offset year
  if x.1 ≤ y.1 then [x, y] else [y, x]

/-- The year after which no change is known. -/
def lastKnownYear : Nat := 2099

/-- The changes of two yearly rules after a second. -/
def repeated (a b : Yearly) (last : Int) : List (Int × Int) :=
  let year := (Instant.date ⟨last, 0⟩).year.toNat
  let years := List.range' year (lastKnownYear + 1 - year)
  (years.flatMap fun y => changesInYear a b (Int.ofNat y)).filter (last < ·.1)

/-- The zone of a record. -/
def ofRecord (name : String) (record : List (List Char)) : Zone :=
  let offsets := (splitOn (· == ',') (record.headD [])).map integer
  let changes := recorded offsets origin none (record.drop 2).flatten
  let rules := (splitOn (· == ',') (record.getD 1 [])).map (Yearly.read offsets)
  let later := match rules with
    | [a, b] => repeated a b ((changes.getLast?.map (·.1)).getD origin)
    | _ => []
  ⟨name, offsets.headD 0, changes ++ later⟩

/-! ## 3. Names -/

/-- The words of the records of every region. -/
def recordWords : List (List Char) :=
  [Tables.africa, Tables.america, Tables.antarctica, Tables.asia, Tables.atlantic, Tables.australia,
    Tables.europe, Tables.indian, Tables.pacific, Tables.fixed].flatMap fun text => words text.toList

/-- The record of a name among words: everything behind the name and before the next one. -/
def recordOf? (name : List Char) : List (List Char) → Option (List (List Char))
  | [] => none
  | word :: rest =>
    if word = '@' :: name then some (rest.takeWhile fun w => w.head? != some '@') else recordOf? name rest

/-- The name that another name stands for, among pairs. -/
def aliasOf? (name : List Char) : List (List Char) → Option (List Char)
  | other :: meant :: rest => if other = name then some meant else aliasOf? name rest
  | _ => none

/-- The record of a name, which may be an alias. Letter case counts. -/
def recordNamed? (name : List Char) : Option (List (List Char)) :=
  (recordOf? name recordWords).or
    ((aliasOf? name (words Tables.aliases.toList)).bind fun meant => recordOf? meant recordWords)

/-- Whether there is a zone of a name. -/
def isName (name : String) : Bool := (recordNamed? name.toList).isSome

/-- The zone of a name. -/
def find? (name : String) : Option Zone := (recordNamed? name.toList).map (ofRecord name)

/-- The zone of a name, or universal time when there is none. -/
def named (name : String) : Zone := (find? name).getD utc

end Zone

end Stencil.Calendar
