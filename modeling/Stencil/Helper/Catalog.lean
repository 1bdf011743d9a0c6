import Stencil.Helper.File
import Stencil.Helper.Items
import Stencil.Helper.Json
import Stencil.Helper.Logic
import Stencil.Helper.Math
import Stencil.Helper.Text

/-!
The catalogue of built-in helpers.

A name has two parts, the name space before the first dot and the name within it; the names of logic have no
dot. The forms at the end of the catalogue are expanded by the renderer, and so are the includes.
-/

namespace Stencil.Helper

/-- The names of the forms. -/
def forms : List String := ["if", "unless", "each", "with", "let", "component"]

/-- The names of everything built in, in the order of the catalogue. -/
def builtinNames : List String :=
  Logic.names ++ Math.names ++ Text.names ++ Items.names ++ Date.names ++ Json.names ++ File.names ++ forms

/-- The value of a call of a built-in helper; `none` when the name is not that of one. -/
def call? (args : Args) (setting : Setting) : Option (HelperResult Value) :=
  match Stencil.Text.cutAt? ['.'] args.name.toList with
  | none => (Logic.truth? args.name args).map fun result => result.map Value.bool
  | some (space, method) =>
    let method := String.ofList method
    match String.ofList space with
    | "math" => Math.call? method args
    | "string" => Text.call? method args
    | "array" => Items.call? method args
    | "date" => Date.call? method args setting
    | "json" => Json.call? method args
    | "file" => File.call? method args setting.files
    | _ => none

/-- Whether a call has no outcome at all, neither a value nor an error: one that asks for the exchange format of
a local time outside the calendar. -/
def overruns (args : Args) (setting : Setting) : Bool :=
  match Stencil.Text.cutAt? ['.'] args.name.toList with
  | some (space, method) => decide (String.ofList space = "date") && Date.overruns (.ofList method) args setting
  | none => false

end Stencil.Helper
