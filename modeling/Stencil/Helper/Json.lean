import Stencil.Helper.Args
import Stencil.Json.Reader

/-!
JSON helpers.

A text that is no JSON reads as null, and a value that is no text is taken as read already.
-/

namespace Stencil.Helper.Json

/-- The names of these helpers, in the order of the catalogue. -/
def names : List String := ["json.parse", "json.stringify"]

/-- The value that a text spells. -/
def parse : Value → Value
  | .string s => ((Stencil.Json.ofText? s).map Value.ofJson).getD .null
  | v => v

/-- The value of a call; `none` when there is no such helper. -/
def call? (method : String) (args : Args) : Option (HelperResult Value) :=
  match method with
  | "parse" => some (.ok (parse args.primary))
  | "stringify" =>
    let json := args.primary.toJson
    some (.ok (.string (if args.flag "pretty" then json.indented else json.compact)))
  | _ => none

end Stencil.Helper.Json
