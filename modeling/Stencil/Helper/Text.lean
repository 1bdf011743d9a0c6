import Stencil.Helper.Args
import Stencil.Text.Markup
import Stencil.Text.Percent
import Stencil.Text.Slug

/-!
Text helpers.

Helpers about one text take all their positional arguments together as that text, so that a name can be put
together and raised to capitals in one call.
-/

namespace Stencil.Helper.Text

open Stencil.Text Stencil.Number

/-- The names of these helpers, in the order of the catalogue. -/
def names : List String :=
  ["string.concat", "string.default", "string.replace", "string.substring", "string.padLeft",
    "string.padRight", "string.startsWith", "string.endsWith", "string.contains", "string.length",
    "string.lowercase", "string.uppercase", "string.titlecase", "string.slugify", "string.urlEncode",
    "string.urlDecode", "string.htmlEscape", "string.htmlToText", "string.htmlToMd"]

/-- Whether a value is as good as missing. -/
def isBlankValue : Value → Bool
  | .null => true
  | .string s => s.isEmpty
  | _ => false

/-- The first value that is neither null nor empty text, or else the last one. -/
def firstUseful (vs : List Value) : Value :=
  ((vs.find? (! isBlankValue ·)).or vs.getLast?).getD .null

/-- A bound of a part of a text: below zero and what is not a number are zero. -/
def bound (size : Nat) (v : Value) : Nat := (truncateWithin 0 size v.toNumber).toNat

/-- The characters from one bound to the other, whichever comes first. -/
def substring (args : Args) : List Char :=
  let cs := (args.textAt 0).toList
  let a := bound cs.length (args.get 1)
  let b := match args.get 2 with
    | .null => cs.length
    | v => bound cs.length v
  (cs.drop (min a b)).take (max a b - min a b)

/-- The greatest width that a text is filled up to. -/
def maxWidth : Nat := 4096

/-- The first `n` characters of the fill repeated without end. -/
def filling (fill : List Char) (n : Nat) : List Char :=
  ((List.replicate (n / fill.length + 1) fill).flatten).take n

/-- The text filled up to a width, on the left or on the right. -/
def pad (args : Args) (left : Bool) : List Char :=
  let cs := (args.textAt 0).toList
  let x := args.numberAt 1
  let width := if x.isFinite then (truncateWithin 0 maxWidth x).toNat else 0
  let fill := match args.get 2 with
    | .null => [' ']
    | v => v.text.toList
  if width ≤ cs.length || fill.isEmpty then cs
  else if left then filling fill (width - cs.length) ++ cs
  else cs ++ filling fill (width - cs.length)

/-- The text with every occurrence of a pattern exchanged. An empty pattern occurs nowhere. -/
def replaced (s pattern new : String) : String := if pattern.isEmpty then s else s.replace pattern new

/-- The value of a call; `none` when there is no such helper. -/
def call? (method : String) (args : Args) : Option (HelperResult Value) :=
  let whole := args.concat.toList
  let text (cs : List Char) : Option (HelperResult Value) := some (.ok (.string (.ofList cs)))
  let yes (b : Bool) : Option (HelperResult Value) := some (.ok (.bool b))
  let first := (args.textAt 0).toList
  let second := (args.textAt 1).toList
  match method with
  | "concat" => text whole
  | "default" => some (.ok (firstUseful args.positional))
  | "replace" => some <| do
    args.require 2
    return .string (replaced (args.textAt 0) (args.textAt 1) (args.textAt 2))
  | "substring" => text (substring args)
  | "padLeft" => text (pad args true)
  | "padRight" => text (pad args false)
  | "startsWith" => yes (second.isPrefixOf first)
  | "endsWith" => yes (second.isSuffixOf first)
  | "contains" => yes ((args.textAt 0).contains (args.textAt 1))
  | "length" => some (.ok (.ofNat args.concat.length))
  | "lowercase" => text (lower whole)
  | "uppercase" => text (upper whole)
  | "titlecase" => text (title whole)
  | "slugify" => text (slug whole)
  | "urlEncode" => some (.ok (.string (Percent.encode args.concat)))
  | "urlDecode" => some (.ok (.string ((Percent.decode? args.concat).getD args.concat)))
  | "htmlEscape" => text (Entity.escape whole)
  | "htmlToText" => text (Markup.toPlain whole)
  | "htmlToMd" => text (Markup.toLight whole)
  | _ => none

end Stencil.Helper.Text
