import Stencil.Text.Basic

/-!
White space.

Every part of the library that trims, splits or collapses text means the same set of characters by
"blank": the code points that the Unicode standard gives the property `White_Space`. They are the five
control characters from tab to carriage return, the space, and nineteen code points above ASCII. The zero
width space and the byte order mark are not in the set.

The functions work on lists of characters, because the lexer, the call reader and the proofs about them all
do; `Text.trimmed` is the one for strings.
-/

namespace Stencil.Text

/-! ## 1. The set -/

/-- The code points with the property `White_Space`. -/
def isBlank (c : Char) : Bool :=
  let n := c.toNat
  (9 ≤ n && n ≤ 13) || n == 32 || n == 0x85 || n == 0xA0 || n == 0x1680 ||
    (0x2000 ≤ n && n ≤ 0x200A) || n == 0x2028 || n == 0x2029 || n == 0x202F || n == 0x205F || n == 0x3000

/-! ## 2. Trimming -/

/-- The text without its leading blanks. -/
def trimStart (cs : List Char) : List Char := cs.dropWhile isBlank

/-- The text without its trailing blanks. -/
def trimEnd (cs : List Char) : List Char := (cs.reverse.dropWhile isBlank).reverse

/-- The text without the blanks at its two ends. -/
def trim (cs : List Char) : List Char := trimEnd (trimStart cs)

/-- `trim` on strings. -/
def trimmed (s : String) : String := .ofList (trim s.toList)

/-! ## 3. Words -/

/-- The text cut at its blanks, empty pieces left out. -/
def words (cs : List Char) : List (List Char) := (splitOn isBlank cs).filter (! ·.isEmpty)

end Stencil.Text
