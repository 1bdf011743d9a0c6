import Stencil.Text.Basic

/-!
Request targets.

A target is a path with perhaps a query, a whole address with a scheme, an authority by itself, or a star. What
follows a number sign is left out. Nothing is decoded.
-/

namespace Stencil.Http

open Stencil.Text

/-- A request target. -/
structure Uri where
  scheme : Option String
  authority : String
  path : String
  query : Option String
  deriving DecidableEq, Repr

namespace Uri

/-! ## 1. Authorities -/

/-- Whether a character may stand in an authority: what may stand in an address at all, but not the percent
sign. -/
def isAuthorityChar (c : Char) : Bool :=
  c.isAlphanum || "!$&'()*+,-.:;=@[]_~".toList.contains c

/-- Whether a character ends an authority. -/
def endsAuthority (c : Char) : Bool := c == '/' || c == '?' || c == '#'

/-- What was seen of an authority: colons, brackets and percent signs that still count, and whether the last
character was an at sign. -/
structure Seen where
  colons : Nat := 0
  opened : Bool := false
  closed : Bool := false
  percent : Bool := false
  endsInAt : Bool := false

/-- One character further. Before an at sign stands the user, within brackets an address of its own; in neither do
colons and percent signs count. -/
def Seen.step? (seen : Seen) (c : Char) : Option Seen :=
  let seen := { seen with endsInAt := c == '@' }
  if c = ':' then if seen.colons < 8 then some { seen with colons := seen.colons + 1 } else none
  else if c = '[' then if seen.percent || seen.opened then none else some { seen with opened := true }
  else if c = ']' then
    if seen.opened && !seen.closed then some { seen with closed := true, colons := 0, percent := false } else none
  else if c = '@' then some { seen with colons := 0, percent := false }
  else if c = '%' then some { seen with percent := true }
  else if isAuthorityChar c then some seen
  else none

/-- Whether an authority is well formed. -/
def isAuthority (cs : List Char) : Bool :=
  match cs.foldlM Seen.step? {} with
  | some seen => seen.opened == seen.closed && seen.colons ≤ 1 && !seen.endsInAt && !seen.percent
  | none => false

/-- The authority at the front of a text, which may be empty, and the rest. -/
def authority? (cs : List Char) : Option (List Char × List Char) :=
  let before := cs.takeWhile (!endsAuthority ·)
  if isAuthority before then some (before, cs.dropWhile (!endsAuthority ·)) else none

/-! ## 2. Paths and queries -/

/-- Whether a character is a blank or a control character of ASCII. -/
def isBlankOrControl (c : Char) : Bool := decide (c.toNat ≤ 32) || c.toNat == 127

/-- Whether a character may stand in a path. -/
def isPathChar (c : Char) : Bool :=
  !isBlankOrControl c && c.toNat != 96 && ['#', '<', '>', '?'].all (c != ·)

/-- Whether a character may stand in a query. -/
def isQueryChar (c : Char) : Bool := !isBlankOrControl c && ['"', '#', '<', '>'].all (c != ·)

/-- The path of a text and its query. -/
def pathAndQuery? (cs : List Char) : Option (List Char × Option (List Char)) :=
  let kept := cs.takeWhile (· != '#')
  let path := kept.takeWhile (· != '?')
  let query := match kept.dropWhile (· != '?') with
    | _ :: query => some query
    | [] => none
  if path.all isPathChar && (query.getD []).all isQueryChar then some (path, query) else none

/-! ## 3. Schemes -/

/-- Whether a character may stand in a scheme. -/
def isSchemeChar (c : Char) : Bool := c.isAlphanum || c == '+' || c == '-' || c == '.' || c == '~'

/-- The scheme at the front of a text, and what follows its colon and slashes. The two usual schemes are given in
small letters. -/
def scheme? (cs : List Char) : Option (String × List Char) :=
  let word := cs.takeWhile isSchemeChar
  (stripPrefix? "://".toList (cs.dropWhile isSchemeChar)).map fun rest =>
    let name := String.ofList word
    let small := String.ofList (word.map Char.toLower)
    (if small = "http" ∨ small = "https" then small else name, rest)

/-- The longest scheme. -/
def longestScheme : Nat := 64

/-! ## 4. Targets -/

/-- The longest target, in bytes. -/
def longest : Nat := 65534

/-- An authority by itself. -/
def ofAuthority? (cs : List Char) : Option Uri :=
  if isAuthority cs && cs.all (!endsAuthority ·) then some ⟨none, .ofList cs, "", none⟩ else none

/-- A target that begins with a path. -/
def ofPath? (scheme : Option String) (authority : List Char) (cs : List Char) : Option Uri :=
  (pathAndQuery? cs).map fun (path, query) =>
    ⟨scheme, .ofList authority, if path.isEmpty then "/" else .ofList path, query.map .ofList⟩

/-- The target that a text is. -/
def read? (text : String) : Option Uri :=
  let cs := text.toList
  if cs.isEmpty || longest < byteSize cs then none
  else if text = "*" then some ⟨none, "", "*", none⟩
  else if cs.head? = some '/' then ofPath? none [] cs
  else
    match scheme? cs with
    | none => ofAuthority? cs
    | some (scheme, rest) =>
      if longestScheme < scheme.length then none
      else
        match authority? rest with
        | none | some ([], _) => none
        | some (authority, rest) => ofPath? (some scheme) authority rest

end Uri

end Stencil.Http
