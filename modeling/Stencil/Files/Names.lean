import Stencil.Path

/-!
Listings.

The names in a folder are listed in ascending order of their code points, each once.
-/

namespace Stencil.Files

/-- Puts a name into an ascending list, unless it is there already. -/
def insertName (name : String) : List String → List String
  | [] => [name]
  | other :: names =>
    match compare name other with
    | .lt => name :: other :: names
    | .eq => other :: names
    | .gt => other :: insertName name names

/-- The names in ascending order, each once. -/
def sortedNames (names : List String) : List String := names.foldr insertName []

/-- The names of what the given paths show inside a folder. -/
def namesIn (folder : Path) (paths : List Path) : List String :=
  sortedNames (paths.filterMap (Path.childOf? folder))

end Stencil.Files
