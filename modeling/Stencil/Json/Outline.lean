import Stencil.Json.Reader

/-!
Documents with fixed settings.

Where a document is expected to hold certain settings, an outline says which. Whatever else it holds is left out,
even if numbers in it are too large and strings and names in it are no text, while a setting that stands there
twice is a fault. Settings may also be given as a list, in the order of the outline.
-/

namespace Stencil.Json

/-! ## 1. Outlines -/

/-- What a document is expected to hold: anything, or settings of which only the named ones matter. -/
inductive Outline where
  | any
  | settings (parts : List (String × Outline))
  deriving Inhabited

mutual

/-- What a written document means, as far as an outline goes. Settings without a name in it are left out whatever
they are; the others must not be repeated. -/
def keep? (depth : Nat) (outline : Outline) : Written → Option Json
  | .map members =>
    match outline, depth with
    | .any, depth => Written.value? depth (.map members)
    | .settings _, 0 => none
    | .settings parts, depth + 1 => (keepMembers? depth parts members).map .map
  | .list items =>
    match outline, depth with
    | .any, depth => Written.value? depth (.list items)
    | .settings _, 0 => none
    | .settings parts, depth + 1 => (keepItems? depth parts items).map .list
  | written => Written.value? depth written

/-- The settings of an object. -/
def keepMembers? (depth : Nat) (parts : Fields Outline) :
    List (List Piece × Written) → Option (List (String × Json))
  | [] => some []
  | (pieces, written) :: members => do
    let key ← pieceText? pieces
    match Fields.get? key parts with
    | none => keepMembers? depth parts members
    | some outline =>
      let json ← keep? depth outline written
      let rest ← keepMembers? depth parts members
      if (Fields.get? key rest).isSome then none
      return (key, json) :: rest

/-- The settings of a list. -/
def keepItems? (depth : Nat) (parts : Fields Outline) : List Written → Option (List Json)
  | [] => some []
  | written :: items =>
    match parts with
    | [] => none
    | (_, outline) :: parts => do
      let json ← keep? depth outline written
      return json :: (← keepItems? depth parts items)

end

/-- The document in a text, as far as an outline goes. -/
def ofOutlinedText? (outline : Outline) (text : String) : Option Json :=
  (Written.read? text.toList).bind (keep? maxNesting outline)

/-! ## 2. Settings -/

/-- The settings in a section by name: those of an object, or those of a list in the order of `names`. Of a list that
is too long the rest is a fault when reading is strict, and is left out when it is not. -/
def settings? (strict : Bool) (names : List String) : Json → Option (Fields Json)
  | .map members => some members
  | .list items => if strict && decide (names.length < items.length) then none else some (names.zip items)
  | _ => none

/-- A setting, or what it is when it is left out. -/
def setting? {α : Type} (section_ : Fields Json) (name : String) (read? : Json → Option α) (other : α) :
    Option α :=
  match Fields.get? name section_ with
  | some json => read? json
  | none => some other

end Stencil.Json
