import Stencil.Text.Entity
import Stencil.Text.Search

/-!
Text out of markup.

Two readable forms of a piece of HTML: plain text, and the light markup in which stars, hashes and brackets
stand for tags. Both drop scripts and style sheets with their content, turn the ends of lines and blocks into line
breaks, drop all tags that are left, resolve character references and tidy up the blanks. Tags are found by
patterns, in the letter case they come in, and not by parsing; what does not look like a whole tag stays.
-/

namespace Stencil.Text.Markup

open Search

/-! ## 1. Patterns for tags -/

/-- The rest of a tag: anything up to the closing bracket. -/
def tagRest : Search := .row [.many true (· != '>'), .exactly '>']

/-- An opening tag of one of several names, which is kept under number one. -/
def openingTag (names : List Search) : Search :=
  .row [.exactly '<', .keep 1 (.oneOf names), .wordEdge, tagRest]

/-- A closing tag of one of several names, without blanks. -/
def closingTag (names : List Search) : Search :=
  .row [.exactly '<', .exactly '/', .oneOf names, .exactly '>']

/-- The least text that does, kept under number two. -/
def content : Search := .keep 2 (.many false fun _ => true)

/-- An element of one of several names, up to the nearest closing tag of any of them. -/
def element (names : List Search) : Search := .row [openingTag names, content, closingTag names]

/-- An attribute in quotes of either kind; its value is kept. -/
def quotedAttribute (name : String) (number : Nat) : Search :=
  .row [.wordEdge, .word name, .many true isBlank, .exactly '=', .many true isBlank,
    .one fun c => c == '"' || c == '\'', .keep number (.many true fun c => c != '"' && c != '\''),
    .one fun c => c == '"' || c == '\'']

/-- Scripts and style sheets. -/
def scriptOrStyle : Search := element [.word "script", .word "style"]

/-- Line breaks. -/
def lineBreak : Search :=
  .row [.exactly '<', .word "br", .many true isBlank, .optional (.exactly '/'), .exactly '>']

/-- The number of a heading. -/
def headingLevel : Search := .one fun c => '1' ≤ c && c ≤ '6'

/-- The ends of blocks. -/
def blockEnd : Search :=
  closingTag [.word "p", .word "div", .row [.letter 'h', headingLevel], .word "li", .word "tr",
    .word "blockquote", .word "pre"]

/-- Headings. Their level is kept under number one. -/
def heading : Search :=
  .row [.exactly '<', .letter 'h', .keep 1 headingLevel, .wordEdge, tagRest, content,
    closingTag [.row [.letter 'h', headingLevel]]]

/-- Links. Their address is kept under number one. -/
def link : Search :=
  .row [.exactly '<', .letter 'a', .wordEdge, .many true (· != '>'), quotedAttribute "href" 1, tagRest, content,
    closingTag [.letter 'a']]

/-- Images. Their address is kept under number one, and under number two a text in their stead that stands
right behind it. -/
def image : Search :=
  .row [.exactly '<', .word "img", .wordEdge, .many true (· != '>'), quotedAttribute "src" 1,
    .many false (· != '>'), .optional (quotedAttribute "alt" 2), tagRest]

/-- Items of lists. -/
def listItem : Search := .row [.exactly '<', .word "li", .wordEdge, tagRest]

/-- Anything in angle brackets. -/
def anyTag : Search := .row [.exactly '<', tagRest]

/-! ## 2. Blanks -/

/-- The text with every run of spaces and tabs as one space. `inRun` says whether one was just written. -/
def squeezeSpaces (inRun : Bool) : List Char → List Char
  | [] => []
  | c :: cs =>
    if c = ' ' ∨ c = '\t' then
      if inRun then squeezeSpaces true cs else ' ' :: squeezeSpaces true cs
    else c :: squeezeSpaces false cs

/-- The text with at most two line breaks in a row; `run` were just written. -/
def squeezeBreaks (run : Nat) : List Char → List Char
  | [] => []
  | c :: cs =>
    if c = '\n' then
      if run < 2 then c :: squeezeBreaks (run + 1) cs else squeezeBreaks run cs
    else c :: squeezeBreaks 0 cs

/-- The text without blanks at the ends of lines, without empty lines in a row, and without blanks at its own
ends. -/
def tidy (cs : List Char) : List Char :=
  let lines := (splitOn (· == '\n') (squeezeSpaces false cs)).map trimEnd
  trim (squeezeBreaks 0 (join ['\n'] lines))

/-- What remains when tags go and references are resolved. -/
def finish (cs : List Char) : List Char := tidy (Entity.unescape (anyTag.replace (fun _ => []) cs))

/-! ## 3. The two forms -/

/-- The markup as plain text. -/
def toPlain (cs : List Char) : List Char :=
  let cs := scriptOrStyle.replace (fun _ => []) cs
  let cs := lineBreak.replace (fun _ => ['\n']) cs
  let cs := blockEnd.replace (fun _ => ['\n', '\n']) cs
  finish cs

/-- A heading in light markup. -/
def lightHeading (found : Match) : List Char :=
  let level := ((Number.value? (found.part 1)).getD 1)
  '\n' :: '\n' :: (List.replicate level '#' ++ ' ' :: (trim (found.part 2) ++ ['\n', '\n']))

/-- The markup in light markup. -/
def toLight (cs : List Char) : List Char :=
  let cs := scriptOrStyle.replace (fun _ => []) cs
  let cs := heading.replace lightHeading cs
  let cs := (element [.word "strong", .letter 'b']).replace
    (fun found => ['*', '*'] ++ found.part 2 ++ ['*', '*']) cs
  let cs := (element [.word "em", .letter 'i']).replace (fun found => ['*'] ++ found.part 2 ++ ['*']) cs
  let cs := (element [.word "code"]).replace
    (fun found => .ofNat 96 :: (found.part 2 ++ [.ofNat 96])) cs
  let cs := link.replace (fun found => '[' :: (found.part 2 ++ ']' :: '(' :: (found.part 1 ++ [')']))) cs
  let cs := image.replace
    (fun found => '!' :: '[' :: (found.part 2 ++ ']' :: '(' :: (found.part 1 ++ [')']))) cs
  let cs := listItem.replace (fun _ => ['\n', '-', ' ']) cs
  let cs := lineBreak.replace (fun _ => [' ', ' ', '\n']) cs
  let cs := blockEnd.replace (fun _ => ['\n', '\n']) cs
  finish cs

end Stencil.Text.Markup
