import Stencil.Files
import Stencil.Helper.Args

/-!
File helpers.

These ask about files without reading them. A name of nothing is no error; a name that is refused is. Including
a file is not among them, since that is the business of the renderer.
-/

namespace Stencil.Helper.File

/-- The names of file helpers, in the order of the catalogue, the renderer's own included. -/
def names : List String :=
  ["file.exists", "file.include", "file.list", "file.timestamp", "file.includeComponents"]

/-- The location of the first argument; none when there is nothing. -/
def locate (files : Files) (args : Args) : HelperResult (Option Location) := do
  args.require 1
  match files.resolve (args.textAt 0) with
  | .ok found => .ok (some found)
  | .error (.notFound _) => .ok none
  | .error e => .error (.failed e.message)

/-- The ending that listed names have to have, with one dot in front. -/
def ending? (args : Args) : Option (List Char) :=
  (args.namedText? "extension").map fun e => '.' :: e.toList.dropWhile (· == '.')

/-- The value of a call; `none` when there is no such helper. -/
def call? (method : String) (args : Args) (files : Files) : Option (HelperResult Value) :=
  match method with
  | "exists" => some <| do
    let found ← locate files args
    return .bool (match found with
      | some place => files.has place
      | none => false)
  | "list" => some <| do
    let found ← locate files args
    let names := match found with
      | some place => files.list place
      | none => []
    let fits (name : String) : Bool :=
      match ending? args with
      | some e => e.isSuffixOf name.toList
      | none => true
    return .list ((names.filter fits).map Value.string)
  | "timestamp" => some <| do
    let found ← locate files args
    let time := (found.bind files.modified?).filter (0 ≤ ·)
    return (time.map Value.ofInt).getD .null
  | _ => none

end Stencil.Helper.File
