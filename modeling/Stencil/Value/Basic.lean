import Stencil.Fields
import Stencil.Number.Numeral

/-!
The values of templates.

Every expression evaluates to a value, and a value keeps its kind while it flows through nested calls and
block arguments; only output turns it into text. Maps keep the order of their keys, and a key stands once.

The traversals are families of three functions, one each for a value, the items of a list and the entries of
a map, so that each is a plain structural recursion.
-/

namespace Stencil

/-- A value that a template works with.

What is not a number comes with either sign. A `Float` has only the plain one, so the one with a minus sign is
a value of its own; no comparison tells the two apart but the total order that lists are sorted by. -/
inductive Value where
  | null
  | bool (b : Bool)
  | number (x : Float)
  | minusNan
  | string (s : String)
  | list (items : List Value)
  | map (entries : List (String × Value))
  deriving Inhabited

namespace Value

/-! ## 1. Kinds -/

/-- The name of a value's kind, for messages. -/
def kind : Value → String
  | .null => "null"
  | .bool _ => "boolean"
  | .number _ => "number"
  | .minusNan => "number"
  | .string _ => "string"
  | .list _ => "array"
  | .map _ => "object"

/-- Whether the value is null. -/
def isNull : Value → Bool
  | .null => true
  | _ => false

/-- Whether the value is what is not a number, of either sign. -/
def isNan : Value → Bool
  | .number x => x.isNaN
  | .minusNan => true
  | _ => false

/-- Whether the value is a map. -/
def isMap : Value → Bool
  | .map _ => true
  | _ => false

/-- The entries of a map; every other value has none. -/
def entries : Value → Fields Value
  | .map entries => entries
  | _ => []

/-- The string of a string value. -/
def string? : Value → Option String
  | .string s => some s
  | _ => none

/-- The items of a list value. -/
def items? : Value → Option (List Value)
  | .list items => some items
  | _ => none

/-- The entries of a map value. -/
def entries? : Value → Option (Fields Value)
  | .map entries => some entries
  | _ => none

/-- Whether a condition holds: `false`, zero, what is not a number, null and everything empty is no. -/
def isTruthy : Value → Bool
  | .null => false
  | .bool b => b
  | .number x => !(x == 0) && !x.isNaN
  | .minusNan => false
  | .string s => !s.isEmpty
  | .list items => !items.isEmpty
  | .map entries => !entries.isEmpty

/-- A natural number as a value. -/
def ofNat (n : Nat) : Value := .number (Float.ofNat n)

/-- An integer as a value. -/
def ofInt (i : Int) : Value := .number (Float.ofInt i)

/-- An optional string as a value, null when there is none. -/
def ofString? (s : Option String) : Value := (s.map Value.string).getD .null

/-! ## 2. Paths -/

/-- The part of a value under one segment of a path: a key of a map or a decimal index into a list. -/
def child? (segment : String) : Value → Option Value
  | .map entries => Fields.get? segment entries
  | .list items => (Number.readIndex? segment.toList).bind (items[·]?)
  | _ => none

/-- The part of a value at a path. -/
def getPath? (v : Value) : List String → Option Value
  | [] => some v
  | segment :: rest => (v.child? segment).bind (getPath? · rest)

/-- The value with `new` at a path. What stands on the way and is no map is replaced by a map. -/
def insertPath (v : Value) (new : Value) : List String → Value
  | [] => new
  | segment :: rest =>
    let entries := v.entries
    let child := (Fields.get? segment entries).getD (.map [])
    .map (Fields.insert segment (insertPath child new rest) entries)

/-! ## 3. Sameness -/

mutual

/-- Whether two values are the same: kind by kind and part by part, the order of keys left aside. What is
not a number is not even the same as itself. -/
def same : Value → Value → Bool
  | .null, .null => true
  | .bool a, .bool b => a == b
  | .number x, .number y => x == y
  | .string s, .string t => s == t
  | .list as, .list bs => sameItems as bs
  | .map as, .map bs => as.length == bs.length && sameEntries as bs
  | _, _ => false

/-- Whether two lists have the same items. -/
def sameItems : List Value → List Value → Bool
  | [], [] => true
  | a :: as, b :: bs => same a b && sameItems as bs
  | _, _ => false

/-- Whether every entry is the same under its key in other entries. -/
def sameEntries : List (String × Value) → List (String × Value) → Bool
  | [], _ => true
  | (key, a) :: as, bs =>
    (match Fields.get? key bs with
      | some b => same a b
      | none => false) && sameEntries as bs

end

end Value

end Stencil
