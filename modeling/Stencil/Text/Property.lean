import Stencil.Number.Hex
import Stencil.Text.Blank
import Stencil.Text.Property.Tables

/-!
Properties of characters.

Names, words and role titles may be written in any script, so the classes here are those of the Unicode
standard. ASCII is decided by the rules that are written out; everything above it is looked up in a table.
-/

namespace Stencil.Text

/-! ## 1. Tables -/

/-- Ranges of code points, ends included. -/
abbrev CodeRanges := List (Nat × Nat)

/-- The number that hexadecimal digits spell; zero when they spell none. -/
def hexNumber (cs : List Char) : Nat := (Number.hex? cs).getD 0

/-- The ranges that a table lists. -/
def CodeRanges.read (table : String) : CodeRanges :=
  (words table.toList).map fun entry =>
    match cutAt? ['-'] entry with
    | some (a, b) => (hexNumber a, hexNumber b)
    | none => (hexNumber entry, hexNumber entry)

/-- Whether a character lies in one of the ranges. -/
def CodeRanges.has (ranges : CodeRanges) (c : Char) : Bool :=
  ranges.any fun (a, b) => a ≤ c.toNat && c.toNat ≤ b

/-- The ranges of letters and numbers above ASCII. -/
def alphanumericRanges : CodeRanges := .read Tables.alphanumeric

/-- The ranges of word characters above ASCII. -/
def wordRanges : CodeRanges := .read Tables.word

/-- The ranges of characters above ASCII that have no visible form. -/
def unprintableRanges : CodeRanges := .read Tables.unprintable

/-- The ranges of characters that attach to the one before. -/
def graphemeExtendRanges : CodeRanges := .read Tables.graphemeExtend

/-! ## 2. Classes -/

/-- Letters and numbers of any script. -/
def isAlphanumeric (c : Char) : Bool :=
  if c.toNat < 128 then c.isAlphanum else alphanumericRanges.has c

/-- Characters of words: letters, marks, digits, the low line and other connectors. -/
def isWordPart (c : Char) : Bool :=
  if c.toNat < 128 then c.isAlphanum || c == '_' else wordRanges.has c

/-- The letters that fill the place of a missing part of a Hangul syllable and show nothing. -/
def isFiller (c : Char) : Bool := [0x115F, 0x1160, 0x3164, 0xFFA0].contains c.toNat

/-- Characters with a visible form of their own; of the blanks only the space. -/
def isPrintable (c : Char) : Bool :=
  if c.toNat < 128 then 32 ≤ c.toNat && c.toNat < 127 else !unprintableRanges.has c && !isFiller c

/-- The sound marks of half-width kana, which attach to the letter before but take a place of their own. -/
def isSoundMark (c : Char) : Bool := [0xFF9E, 0xFF9F].contains c.toNat

/-- Characters that attach to the one before and take no place of their own. -/
def isAttached (c : Char) : Bool := 128 ≤ c.toNat && graphemeExtendRanges.has c && !isSoundMark c

/-! ## 3. Quoted text in messages -/

/-- A character inside quoted text: what has no visible form of its own is given by its code point. -/
def visible (c : Char) : List Char :=
  if c.toNat = 0 then ['\\', '0']
  else if c = '\t' then ['\\', 't']
  else if c = '\n' then ['\\', 'n']
  else if c = '\r' then ['\\', 'r']
  else if c = '"' then ['\\', '"']
  else if c = '\\' then ['\\', '\\']
  else if isAttached c || !isPrintable c then
    '\\' :: 'u' :: '{' :: (Number.hexText c.toNat ++ ['}'])
  else [c]

/-- Text in quotes with everything in it made visible. -/
def visiblyQuoted (s : String) : String := .ofList ('"' :: (s.toList.flatMap visible ++ ['"']))

end Stencil.Text
