import Stencil.Fields

/-!
JSON documents.

A document keeps two things that the values of templates do not: whether a number was written as an integer,
and with it the exact integer. Objects keep the order of their members.
-/

namespace Stencil

/-- A JSON document. -/
inductive Json where
  | null
  | bool (b : Bool)
  | integer (i : Int)
  | real (x : Float)
  | string (s : String)
  | list (items : List Json)
  | map (members : List (String × Json))
  deriving Inhabited

end Stencil
