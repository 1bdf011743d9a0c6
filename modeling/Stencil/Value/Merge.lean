import Stencil.Value.Basic

/-!
Laying values over each other.

An overlay changes a value as little as it says. Maps merge key by key, a null in the overlay is no statement
about a key that is already there, and everything else takes the place of what it lies over.
-/

namespace Stencil.Value

mutual

/-- A value with an overlay on it. -/
def merge (base : Value) : Value → Value
  | .null => base
  | .map entries =>
    match base with
    | .map baseEntries => .map (mergeEntries baseEntries entries)
    | _ => .map entries
  | v => v

/-- The entries of a map with those of an overlay on them. -/
def mergeEntries (base : List (String × Value)) : List (String × Value) → List (String × Value)
  | [] => base
  | (key, v) :: entries =>
    match Fields.get? key base with
    | some existing => mergeEntries (Fields.insert key (merge existing v) base) entries
    | none => mergeEntries (Fields.insert key v base) entries

end

end Stencil.Value
