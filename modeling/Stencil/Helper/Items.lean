import Stencil.Helper.Date
import Stencil.Number.Arithmetic

/-!
List helpers.

Everything counts as a list here: null is the empty one, and a value that is no list is a list of itself. Sorting
is by a key, which may be the item or a part of it; items without a key come last, in whatever direction the
others are sorted, and items with equal keys keep their order.
-/

namespace Stencil.Helper.Items

open Stencil.Number Stencil.Calendar

/-- The names of these helpers, in the order of the catalogue. -/
def names : List String :=
  ["array.at", "array.first", "array.last", "array.includes", "array.isEmpty", "array.join", "array.length",
    "array.concat", "array.reverse", "array.sort"]

/-- The items of any value. -/
def itemsOf : Value → List Value
  | .list items => items
  | .null => []
  | v => [v]

/-! ## 1. Parts of lists -/

/-- The item at an index, which counts from the end when it is below zero. -/
def itemAt (items : List Value) (index : Float) : Value :=
  if index.isNaN then .null
  else
    let i := truncateToWord index
    let place := if i < 0 then items.length + i else i
    if place < 0 then .null else items.getD place.toNat .null

/-- How many items a count asks for. -/
def countOf (size : Nat) (v : Value) : Nat :=
  let x := v.toNumber
  if x.isFinite then (truncateWithin 0 size x).toNat else 0

/-- The first item, or the first ones when a count is given. -/
def leading (items : List Value) : Value → Value
  | .null => items.headD .null
  | count => .list (items.take (countOf items.length count))

/-- The last item, or the last ones when a count is given. -/
def trailing (items : List Value) : Value → Value
  | .null => items.getLastD .null
  | count => .list (items.drop (items.length - countOf items.length count))

/-- Whether two items are the same; here what is not a number is the same as itself. -/
def sameItem (a b : Value) : Bool := a.same b || (a.isNan && b.isNan)

/-- Whether there is nothing in a value. -/
def isEmpty : Value → Bool
  | .null => true
  | .string s => s.isEmpty
  | .list items => items.isEmpty
  | .map entries => entries.isEmpty
  | _ => false

/-- How much is in a value. -/
def size : Value → Nat
  | .string s => s.length
  | .map entries => entries.length
  | v => (itemsOf v).length

/-- The items of several lists in one. -/
def concat (lists : List Value) : List Value := lists.flatMap itemsOf

/-! ## 2. Sorting -/

/-- What keys are compared as. -/
inductive Collation where
  | kinds
  | numbers
  | texts
  | dates
  deriving DecidableEq, Repr

/-- The collation of a name; any other name means the same as none. -/
def Collation.ofName? : Option String → Collation
  | some "number" => .numbers
  | some "string" => .texts
  | some "date" => .dates
  | _ => .kinds

/-- The key under a collation, a number for numbers and dates and a string for texts, local times being those of
universal time. Null has no key, and neither has a value that cannot be converted. -/
def Collation.key? (collation : Collation) (v : Value) : Option Value :=
  match collation, v with
  | _, .null => none
  | .kinds, v => some v
  | .numbers, v => if v.toNumber.isNaN then none else some (.number v.toNumber)
  | .texts, v => some (.string v.text)
  | .dates, v => (Date.instant? Zone.utc v).map fun t => .ofInt t.millis

/-- The place of a kind among kinds. -/
def kindRank : Value → Nat
  | .number _ => 0
  | .minusNan => 0
  | .bool _ => 1
  | .string _ => 2
  | _ => 3

/-- The place of a number in the total order of doubles, which begins with what is not a number under a minus
sign and ends with what is not a number. -/
def numberRank? : Value → Option Int
  | .number x => some (rank x)
  | .minusNan => some (-(2 ^ 63))
  | _ => none

/-- The order of two keys: by kind first, numbers in their total order, strings by code points. -/
def compareKeys (a b : Value) : Ordering :=
  match numberRank? a, numberRank? b with
  | some x, some y => compare x y
  | _, _ => (compare (kindRank a) (kindRank b)).then ((a.looseCompare? b).getD .eq)

/-- Whether one item may stand before another, by their keys. -/
def mayPrecede (descending : Bool) : Option Value → Option Value → Bool
  | none, none => true
  | none, some _ => false
  | some _, none => true
  | some a, some b => if descending then compareKeys b a != .gt else compareKeys a b != .gt

/-- The items in order. -/
def sort (items : List Value) (args : Args) : List Value :=
  let path := match args.namedText? "sortBy" with
    | some dotted => (Text.splitOn (· == '.') dotted.toList).map String.ofList
    | none => []
  let collation := Collation.ofName? (args.namedText? "sortAs")
  let keyed := items.map fun item => ((item.getPath? path).bind collation.key?, item)
  (keyed.mergeSort fun a b => mayPrecede (args.flag "reverse") a.1 b.1).map (·.2)

/-! ## 3. Calls -/

/-- The value of a call; `none` when there is no such helper. -/
def call? (method : String) (args : Args) : Option (HelperResult Value) :=
  let items := itemsOf args.primary
  let found (v : Value) : Option (HelperResult Value) := some (.ok v)
  match method with
  | "at" => found (itemAt items (args.numberAt 1))
  | "first" => found (leading items (args.get 1))
  | "last" => found (trailing items (args.get 1))
  | "includes" =>
    found <| .bool <| match args.primary with
      | .string s => s.contains (args.textAt 1)
      | _ => items.any (sameItem · (args.get 1))
  | "isEmpty" => found (.bool (isEmpty args.primary))
  | "join" =>
    let separator := match args.get 1 with
      | .null => ","
      | v => v.text
    found (.string (separator.intercalate (items.map Value.text)))
  | "length" => found (.ofNat (size args.primary))
  | "concat" => found (.list (concat args.positional))
  | "reverse" => found (.list items.reverse)
  | "sort" => found (.list (sort items args))
  | _ => none

end Stencil.Helper.Items
