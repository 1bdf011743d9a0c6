import Stencil.Number.Digits
import Stencil.Text.Entity.Table
import Stencil.Text.Property

/-!
Character references.

Markup writes characters that have a meaning in it by reference: by name, by number, or by hexadecimal number.
`escape` writes the six characters that could end up in a tag or an attribute, and `unescape` reads references of
every form. A reference that names nothing stays as it is.
-/

namespace Stencil.Text.Entity

open Stencil.Number

/-! ## 1. Writing -/

/-- A character as it is written inside markup. -/
def escapeChar (c : Char) : List Char :=
  if c = '&' then ['&', 'a', 'm', 'p', ';']
  else if c = '<' then ['&', 'l', 't', ';']
  else if c = '>' then ['&', 'g', 't', ';']
  else if c = '"' then ['&', 'q', 'u', 'o', 't', ';']
  else if c = '\'' then ['&', '#', 'x', '2', '7', ';']
  else if c = '/' then ['&', '#', 'x', '2', 'F', ';']
  else [c]

/-- The text as it is written inside markup. -/
def escape (cs : List Char) : List Char := cs.flatMap escapeChar

/-! ## 2. Reading -/

/-- The names that every kind of markup knows. -/
def commonNames : List (List Char × Char) :=
  [(['a', 'm', 'p'], '&'), (['l', 't'], '<'), (['g', 't'], '>'), (['q', 'u', 'o', 't'], '"')]

/-- An entry of the table of names. -/
def readEntry (entry : List Char) : List Char × Char :=
  match cutAt? [':'] entry with
  | some (name, code) => (name, .ofNat (hexNumber code))
  | none => (entry, .ofNat 0)

/-- The names of the table. -/
def tableNames : List (List Char × Char) := (words Tables.entities.toList).map readEntry

/-- The character that a name stands for. -/
def named? (name : List Char) : Option Char :=
  ((commonNames.find? (·.1 == name)).or (tableNames.find? (·.1 == name))).map (·.2)

/-- Whether a number is that of a control character which is no blank. -/
def isBareControl (n : Nat) : Bool := decide (n < 32) && [9, 10, 12, 13].all (· != n)

/-- The character with a number. Control characters cannot be referred to, but for the blanks among them. -/
def numbered? (n : Nat) : Option Char := if n.isValidChar && !isBareControl n then some (.ofNat n) else none

/-- What the inside of a reference stands for. -/
def meaning? : List Char → Option Char
  | '#' :: 'x' :: ds => (hex? ds).bind numbered?
  | '#' :: 'X' :: ds => (hex? ds).bind numbered?
  | '#' :: ds => (capped? 0x110000 ds).bind numbered?
  | name => named? name

/-- The reference at the front of a text whose ampersand was just passed: what it stands for, and the text
behind it. -/
def reference? (cs : List Char) : Option (Char × List Char) :=
  match cs.dropWhile (fun c => c.isAlphanum || c == '#') with
  | ';' :: rest =>
    (meaning? (cs.takeWhile fun c => c.isAlphanum || c == '#')).map fun new => (new, rest)
  | _ => none

/-- Behind a reference there is less than before it. -/
theorem length_of_reference? {cs after : List Char} {new : Char} (h : reference? cs = some (new, after)) :
    after.length < cs.length := by
  unfold reference? at h
  split at h
  · next rest hrest =>
    simp only [Option.map_eq_some_iff, Prod.mk.injEq] at h
    obtain ⟨_, _, _, rfl⟩ := h
    have := (List.dropWhile_suffix (fun c : Char => c.isAlphanum || c == '#') (l := cs)).length_le
    rw [hrest, List.length_cons] at this
    omega
  · simp at h

/-- The text with its references exchanged for what they stand for. -/
def unescape (cs : List Char) : List Char :=
  match cs with
  | [] => []
  | c :: rest =>
    if c = '&' then
      match _h : reference? rest with
      | some (new, after) => new :: unescape after
      | none => c :: unescape rest
    else c :: unescape rest
termination_by cs.length
decreasing_by
  · have := length_of_reference? _h
    simp only [List.length_cons]
    omega
  · simp
  · simp

end Stencil.Text.Entity
