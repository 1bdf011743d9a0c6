import Stencil.Calendar.Pattern
import Stencil.Json.Basic
import Stencil.Number.Binary

/-!
TOML documents.

A document is a table of named values. As JSON it looks the same, except for two kinds of value that JSON does
not have: a number that is infinite or none becomes null, and a date an object with a marked key.
-/

namespace Stencil

/-- A value of a TOML document; dates and times are kept as their text. -/
inductive Toml where
  | string (s : String)
  | integer (i : Int)
  | real (x : Float)
  | bool (b : Bool)
  | date (text : String)
  | list (items : List Toml)
  | table (entries : List (String × Toml))
  deriving Inhabited

namespace Toml

/-- The key under which the text of a date stands in JSON. -/
def dateKey : String := "$__toml_private_datetime"

mutual

/-- The value as a JSON document. -/
def toJson : Toml → Json
  | .string s => .string s
  | .integer i => .integer i
  | .real x => if x.isFinite then .real x else .null
  | .bool b => .bool b
  | .date text => .map [(dateKey, .string text)]
  | .list items => .list (toJsonItems items)
  | .table entries => .map (toJsonEntries entries)

/-- The items of a list as JSON documents. -/
def toJsonItems : List Toml → List Json
  | [] => []
  | v :: vs => toJson v :: toJsonItems vs

/-- The entries of a table as members of a JSON object. -/
def toJsonEntries : List (String × Toml) → List (String × Json)
  | [] => []
  | (key, v) :: entries => (key, toJson v) :: toJsonEntries entries

end

end Toml

end Stencil
