import Stencil.Filter.Glob
import Stencil.Text.Blank

/-!
Path patterns.

A pattern is a dotted list of segments. A segment is an exact key, a star for exactly one level, two stars for
any number of levels, or a glob for one key. Blanks around a pattern and empty segments in it mean nothing, and
a pattern without segments is none.
-/

namespace Stencil.Filter

open Stencil.Text

/-- A segment of a pattern. -/
inductive Segment where
  | exact (key : String)
  | anyKey
  | anyDepth
  | glob (pattern : List Char)
  deriving DecidableEq, Repr

namespace Segment

/-- The segment of a nonempty piece of a pattern. -/
def ofPiece (piece : List Char) : Segment :=
  if piece = ['*', '*'] then .anyDepth
  else if piece = ['*'] then .anyKey
  else if piece.contains '*' then .glob piece
  else .exact (.ofList piece)

/-- Whether a key can stand where the segment does. -/
def accepts (segment : Segment) (key : String) : Bool :=
  match segment with
  | .exact k => k == key
  | .anyKey | .anyDepth => true
  | .glob pattern => globMatches pattern key.toList

end Segment

/-- A pattern: its text without the blanks around it, and its segments. -/
structure Pattern where
  source : String
  segments : List Segment
  deriving DecidableEq, Repr

/-- The pattern that a text spells, if it spells one. -/
def Pattern.read? (text : String) : Option Pattern :=
  let source := trim text.toList
  let pieces := (splitOn (· == '.') source).filter (! ·.isEmpty)
  if pieces.isEmpty then none else some ⟨.ofList source, pieces.map Segment.ofPiece⟩

end Stencil.Filter
