import Stencil.Value.Basic
import Stencil.Number.Arithmetic
import Stencil.Json.Printer

/-!
Values as text and as JSON.

`Value.text` is what output shows: a string as it is, a number in its shortest form, nothing for null, and the
compact JSON text for lists and maps. A number becomes a JSON integer when it is whole and below `9e15`, the
range in which integers and doubles cannot be confused; what is not finite becomes null.
-/

namespace Stencil.Value

/-! ## 1. To JSON and back -/

/-- A number in a JSON document. -/
def jsonOfNumber (x : Float) : Json :=
  match Number.Binary.ofFloat x with
  | .finite _ _ _ =>
    match Number.whole? x with
    | some i => if i.natAbs < 9000000000000000 then .integer i else .real x
    | none => .real x
  | _ => .null

mutual

/-- The value as a JSON document. -/
def toJson : Value → Json
  | .null => .null
  | .bool b => .bool b
  | .number x => jsonOfNumber x
  | .minusNan => .null
  | .string s => .string s
  | .list items => .list (toJsonItems items)
  | .map entries => .map (toJsonEntries entries)

/-- The items of a list as JSON documents. -/
def toJsonItems : List Value → List Json
  | [] => []
  | v :: vs => toJson v :: toJsonItems vs

/-- The entries of a map as members of a JSON object. -/
def toJsonEntries : List (String × Value) → List (String × Json)
  | [] => []
  | (key, v) :: entries => (key, toJson v) :: toJsonEntries entries

end

mutual

/-- The value of a JSON document. Integers become doubles. -/
def ofJson : Json → Value
  | .null => .null
  | .bool b => .bool b
  | .integer i => .number (Float.ofInt i)
  | .real x => .number x
  | .string s => .string s
  | .list items => .list (ofJsonItems items)
  | .map members => .map (ofJsonMembers members)

/-- The values of the items of a list. -/
def ofJsonItems : List Json → List Value
  | [] => []
  | json :: items => ofJson json :: ofJsonItems items

/-- The values of the members of an object. -/
def ofJsonMembers : List (String × Json) → List (String × Value)
  | [] => []
  | (key, json) :: members => (key, ofJson json) :: ofJsonMembers members

end

/-! ## 2. Output -/

/-- The text of a value in output. -/
def text : Value → String
  | .null => ""
  | .bool b => if b then "true" else "false"
  | .number x => Number.text x
  | .minusNan => Number.text Number.nan
  | .string s => s
  | v => v.toJson.compact

end Stencil.Value
