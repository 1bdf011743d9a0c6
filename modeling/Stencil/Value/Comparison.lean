import Stencil.Value.Text

/-!
Comparing values of different kinds.

Templates compare leniently: a number equals the string that spells it, and `true` equals `1`. All of it rests
on two conversions, to a number and to the plain string that stands for a list or a map. A list converts to
its items with commas between them and a map to a fixed text, so that two different maps convert alike; lists
and maps among themselves are therefore compared part by part instead.
-/

namespace Stencil.Value

/-! ## 1. Conversions -/

/-- The value as a number. Blank text, null and the empty list are zero, a list of one item is that item, and
what has no number is not one. -/
def toNumber : Value → Float
  | .number x => x
  | .bool b => if b then 1 else 0
  | .null => 0
  | .string s => Number.parse s
  | .list [] => 0
  | .list [v] => toNumber v
  | _ => Number.nan

mutual

/-- The plain string that a value is compared by. -/
def plainText : Value → String
  | .list items => ",".intercalate (plainItems items)
  | .map _ => "[object Object]"
  | .null => "null"
  | v => v.text

/-- The plain strings of the items of a list; null counts as empty. -/
def plainItems : List Value → List String
  | [] => []
  | .null :: vs => "" :: plainItems vs
  | v :: vs => plainText v :: plainItems vs

end

/-- The value with lists and maps converted to their plain string. -/
def plain : Value → Value
  | .list items => .string (plainText (.list items))
  | .map entries => .string (plainText (.map entries))
  | v => v

/-! ## 2. Equality -/

/-- Lenient equality of values that are neither null nor both lists or both maps: two strings by their
characters, all else by number. -/
def plainEq (a b : Value) : Bool :=
  match a, b with
  | .string s, .string t => s == t
  | a, b => a.toNumber == b.toNumber

mutual

/-- Lenient equality. Null equals only null; lists equal lists and maps equal maps part by part; every other
pair is compared in plain form. -/
def looseEq : Value → Value → Bool
  | .null, .null => true
  | .null, _ => false
  | _, .null => false
  | .list as, .list bs => looseEqItems as bs
  | .map as, .map bs => as.length == bs.length && looseEqEntries as bs
  | a, b => plainEq a.plain b.plain

/-- Lenient equality of lists, item by item. -/
def looseEqItems : List Value → List Value → Bool
  | [], [] => true
  | a :: as, b :: bs => looseEq a b && looseEqItems as bs
  | _, _ => false

/-- Whether every entry is leniently equal to the one under its key in other entries. -/
def looseEqEntries : List (String × Value) → List (String × Value) → Bool
  | [], _ => true
  | (key, a) :: as, bs =>
    (match Fields.get? key bs with
      | some b => looseEq a b
      | none => false) && looseEqEntries as bs

end

/-! ## 3. Order -/

/-- The order of two numbers; none when either is not a number. -/
def compareNumbers? (x y : Float) : Option Ordering :=
  if x < y then some .lt
  else if x == y then some .eq
  else if y < x then some .gt
  else none

/-- The order of two values in plain form: strings by code points, every other pair by number. -/
def looseCompare? (a b : Value) : Option Ordering :=
  match a.plain, b.plain with
  | .string s, .string t => some (compare s t)
  | a, b => compareNumbers? a.toNumber b.toNumber

end Stencil.Value
