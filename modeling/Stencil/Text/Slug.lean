import Stencil.Text.Casing

/-!
Slugs and titles.

A slug is a text made fit for an address: small letters and digits, with a single hyphen where blanks, low lines
and hyphens stood, and nothing else. A title has every word begin with a capital, save short words in the middle.
-/

namespace Stencil.Text

/-- What separates the words of a slug. -/
def isSlugGap (c : Char) : Bool := isBlank c || c == '_' || c == '-'

/-- The text with every run of separators as one hyphen. `inRun` says whether one was just written. -/
def hyphenate (inRun : Bool) : List Char → List Char
  | [] => []
  | c :: cs =>
    if isSlugGap c then
      if inRun then hyphenate true cs else '-' :: hyphenate true cs
    else c :: hyphenate false cs

/-- The text without the hyphens at its ends. -/
def trimHyphens (cs : List Char) : List Char :=
  ((cs.dropWhile (· == '-')).reverse.dropWhile (· == '-')).reverse

/-- The text as part of an address. -/
def slug (cs : List Char) : List Char :=
  let letters := (lower (trim cs)).filter fun c => isWordPart c || isBlank c || c == '-'
  trimHyphens (hyphenate false letters)

/-- The words that stay small inside a title. -/
def smallWords : List String :=
  ["a", "an", "and", "as", "at", "but", "by", "en", "for", "if", "in", "nor", "of", "on", "or", "per", "the",
    "to", "via", "vs"]

/-- A word of a title; `inside` says that it is neither the first nor the last. -/
def titleWord (inside : Bool) (word : List Char) : List Char :=
  let small := lower word
  if inside && smallWords.contains (.ofList small) then small else capitalized small

/-- The text as a title. -/
def title (cs : List Char) : List Char :=
  let ws := words cs
  let size := ws.length
  join [' '] (ws.mapIdx fun i w => titleWord (decide (0 < i ∧ i + 1 < size)) w)

end Stencil.Text
