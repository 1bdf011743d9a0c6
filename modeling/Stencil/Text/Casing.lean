import Stencil.Text.Property
import Stencil.Text.Casing.Tables

/-!
Letter case.

Case maps a character to one or more characters. All of it is context free but for one rule: a capital sigma
becomes the final small one at the end of a word, which is after a letter and not before one, characters that
have no bearing on case left aside.
-/

namespace Stencil.Text

/-! ## 1. Mappings -/

/-- An entry of a mapping table: every `step`-th code point from `first` to `last` maps to the one as far
after the first target, and to the other targets. -/
structure CaseEntry where
  first : Nat
  last : Nat
  step : Nat
  targets : List Nat

/-- The entry that a table spells. -/
def CaseEntry.read (entry : List Char) : CaseEntry :=
  let (source, target) := (cutAt? [':'] entry).getD (entry, [])
  let (range, step) := match cutAt? ['/', '2'] source with
    | some (range, _) => (range, 2)
    | none => (source, 1)
  let (first, last) := (cutAt? ['-'] range).getD (range, range)
  ⟨hexNumber first, hexNumber last, step, (splitOn (· == ',') target).map hexNumber⟩

/-- The characters that an entry maps a code point to. -/
def CaseEntry.target? (entry : CaseEntry) (n : Nat) : Option (List Char) :=
  if entry.first ≤ n ∧ n ≤ entry.last ∧ (n - entry.first) % entry.step = 0 then
    some (entry.targets.mapIdx fun i t => .ofNat (if i = 0 then t + (n - entry.first) else t))
  else none

/-- The entries for capital letters. -/
def upperEntries : List CaseEntry := (words Tables.upper.toList).map CaseEntry.read

/-- The entries for small letters. -/
def lowerEntries : List CaseEntry := (words Tables.lower.toList).map CaseEntry.read

/-- A character as a capital letter. -/
def upperOf (c : Char) : List Char :=
  if c.toNat < 128 then [c.toUpper] else (upperEntries.findSome? (·.target? c.toNat)).getD [c]

/-- A character as a small letter. -/
def lowerOf (c : Char) : List Char :=
  if c.toNat < 128 then [c.toLower] else (lowerEntries.findSome? (·.target? c.toNat)).getD [c]

/-! ## 2. The final sigma -/

/-- The ranges of letters with case above ASCII. -/
def casedRanges : CodeRanges := .read Tables.cased

/-- The ranges of characters above ASCII that have no bearing on case. -/
def caseIgnorableRanges : CodeRanges := .read Tables.caseIgnorable

/-- Letters with case. -/
def isCased (c : Char) : Bool := if c.toNat < 128 then c.isAlpha else casedRanges.has c

/-- Characters that have no bearing on case. -/
def isCaseIgnorable (c : Char) : Bool :=
  if c.toNat < 128 then c == '\'' || c == '.' || c == ':' || c == '^' || c.toNat == 96
  else caseIgnorableRanges.has c

/-- Whether the first character with a bearing on case is a letter. -/
def leadsToLetter (cs : List Char) : Bool :=
  match cs.dropWhile isCaseIgnorable with
  | c :: _ => isCased c
  | [] => false

/-! ## 3. Texts -/

/-- The text in capital letters. -/
def upper (cs : List Char) : List Char := cs.flatMap upperOf

/-- The small letters of a text that goes on after the given characters, which come in reverse. -/
def lowerAfter (before : List Char) : List Char → List Char
  | [] => []
  | c :: cs =>
    (if c.toNat = 0x3A3 then
      [if leadsToLetter before && !leadsToLetter cs then .ofNat 0x3C2 else .ofNat 0x3C3]
    else lowerOf c) ++ lowerAfter (c :: before) cs

/-- The text in small letters. -/
def lower (cs : List Char) : List Char := lowerAfter [] cs

/-- The text with its first character as a capital letter. -/
def capitalized : List Char → List Char
  | [] => []
  | c :: cs => upperOf c ++ cs

end Stencil.Text
