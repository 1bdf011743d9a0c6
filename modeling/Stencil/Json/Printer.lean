import Stencil.Json.Basic
import Stencil.Number.Hex
import Stencil.Number.Text

/-!
Writing JSON.

There is a compact form without any blanks and an indented form with two blanks for each level. Empty lists and
objects take no line of their own in either. Inside strings only the quote, the backslash and the control
characters below the blank are escaped; everything else is written as it is.
-/

namespace Stencil.Json

open Stencil.Number

/-! ## 1. Strings -/

/-- A character inside a quoted string. -/
def escaped (c : Char) : List Char :=
  if c = '"' then ['\\', '"']
  else if c = '\\' then ['\\', '\\']
  else if c = '\n' then ['\\', 'n']
  else if c = '\r' then ['\\', 'r']
  else if c = '\t' then ['\\', 't']
  else if c.toNat = 8 then ['\\', 'b']
  else if c.toNat = 12 then ['\\', 'f']
  else if c.toNat < 32 then ['\\', 'u', '0', '0', hexLower (c.toNat / 16), hexLower (c.toNat % 16)]
  else [c]

/-- A quoted string. -/
def quoted (s : String) : List Char := '"' :: (s.toList.flatMap escaped ++ ['"'])

/-! ## 2. Scalars -/

/-- The text of a document that is neither a list nor an object. -/
def scalar : Json → List Char
  | .bool true => ['t', 'r', 'u', 'e']
  | .bool false => ['f', 'a', 'l', 's', 'e']
  | .integer i => intText i
  | .real x => (realText x).toList
  | .string s => quoted s
  | _ => ['n', 'u', 'l', 'l']

/-! ## 3. The compact form -/

mutual

/-- The document without any blanks, in front of a text. -/
def compactOnto : Json → List Char → List Char
  | .list items, rest => '[' :: compactItemsOnto items (']' :: rest)
  | .map members, rest => '{' :: compactMembersOnto members ('}' :: rest)
  | json, rest => scalar json ++ rest

/-- The items of a list with commas between them, in front of a text. -/
def compactItemsOnto : List Json → List Char → List Char
  | [], rest => rest
  | [item], rest => compactOnto item rest
  | item :: items, rest => compactOnto item (',' :: compactItemsOnto items rest)

/-- The members of an object with commas between them, in front of a text. -/
def compactMembersOnto : List (String × Json) → List Char → List Char
  | [], rest => rest
  | [(key, json)], rest => quoted key ++ ':' :: compactOnto json rest
  | (key, json) :: members, rest => quoted key ++ ':' :: compactOnto json (',' :: compactMembersOnto members rest)

end

/-- The compact text of a document. -/
def compact (json : Json) : String := .ofList (json.compactOnto [])

/-! ## 4. The indented form -/

/-- A line break and the blanks of a level. -/
def lineBreak (level : Nat) : List Char := '\n' :: List.replicate (2 * level) ' '

mutual

/-- The document with its parts indented one level below the given one, in front of a text. -/
def indentedOnto (level : Nat) : Json → List Char → List Char
  | .list items, rest => '[' :: indentedItemsOnto level items (']' :: rest)
  | .map members, rest => '{' :: indentedMembersOnto level members ('}' :: rest)
  | json, rest => scalar json ++ rest

/-- The items of a list, each on a line, in front of a text. -/
def indentedItemsOnto (level : Nat) : List Json → List Char → List Char
  | [], rest => rest
  | [item], rest => lineBreak (level + 1) ++ indentedOnto (level + 1) item (lineBreak level ++ rest)
  | item :: items, rest =>
    lineBreak (level + 1) ++ indentedOnto (level + 1) item (',' :: indentedItemsOnto level items rest)

/-- The members of an object, each on a line, in front of a text. -/
def indentedMembersOnto (level : Nat) : List (String × Json) → List Char → List Char
  | [], rest => rest
  | [(key, json)], rest =>
    lineBreak (level + 1) ++ quoted key ++ ':' :: ' ' :: indentedOnto (level + 1) json (lineBreak level ++ rest)
  | (key, json) :: members, rest =>
    lineBreak (level + 1) ++ quoted key ++
      ':' :: ' ' :: indentedOnto (level + 1) json (',' :: indentedMembersOnto level members rest)

end

/-- The indented text of a document. -/
def indented (json : Json) : String := .ofList (json.indentedOnto 0 [])

end Stencil.Json
