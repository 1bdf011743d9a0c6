import Stencil.Text.Basic

/-!
Relative paths.

Templates name files relative to the template roots. A name is accepted only when it cannot lead out of a
root: not when it is absolute or starts with a drive letter, and not when it goes up. Either slash separates
segments, and empty segments and single dots mean nothing. An accepted path is a nonempty list of segments, and
that is all the rest of the library knows of paths.
-/

namespace Stencil

open Text

/-- Why a path was refused. Each cause carries the path as it was given. -/
inductive PathError where
  /-- The path is absolute or starts with a drive letter. -/
  | absolute (path : String)
  /-- The path goes up. -/
  | traversal (path : String)
  /-- The path is empty or names nothing that exists. -/
  | notFound (path : String)
  deriving DecidableEq, Repr

/-- The text of the error. -/
def PathError.message : PathError → String
  | .absolute path => "absolute paths are not allowed: " ++ path
  | .traversal path => "path traversal is not allowed: " ++ path
  | .notFound path => "module not found: " ++ path

/-- The segments of a relative path. -/
abbrev Path := List String

namespace Path

/-- Either slash. -/
def isSlash (c : Char) : Bool := c == '/' || c == '\\'

/-- Whether a path starts with a slash, or with a letter and a colon. -/
def isAbsolute : List Char → Bool
  | c :: ':' :: _ => c.isAlpha || isSlash c
  | c :: _ => isSlash c
  | [] => false

/-- The segments of a path that say something. -/
def segments (cs : List Char) : Path :=
  ((splitOn isSlash cs).map String.ofList).filter fun s => s != "" && s != "."

/-- The path that a text names. -/
def normalize (text : String) : Except PathError Path :=
  let cs := text.toList
  if isAbsolute cs then .error (.absolute text)
  else
    let path := segments cs
    if path.contains ".." then .error (.traversal text)
    else if path.isEmpty then .error (.notFound text)
    else .ok path

/-- The segments of a path taken as it is: only the forward slash separates, a leading slash or dot is a
segment of its own, and nothing is refused. An accepted path has no segment like these two. -/
def components (text : String) : Path :=
  let pieces := ((splitOn (· == '/') text.toList).map String.ofList)
  let inner (pieces : List String) := pieces.filter fun s => s != "" && s != "."
  match pieces with
  | [""] => []
  | "" :: rest => "/" :: inner rest
  | "." :: rest => "." :: inner rest
  | pieces => inner pieces

/-- The proper beginnings of a path, the empty one first. -/
def ancestors : Path → List Path
  | [] => []
  | s :: rest => [] :: (ancestors rest).map (s :: ·)

/-- The first segment of a path below a folder; `none` when it is not below it. -/
def childOf? (folder : Path) (path : Path) : Option String :=
  match folder, path with
  | [], s :: _ => some s
  | a :: folder, b :: path => if a = b then childOf? folder path else none
  | _, [] => none

/-- The path with slashes between its segments. -/
def text (path : Path) : String := "/".intercalate path

end Path

end Stencil
