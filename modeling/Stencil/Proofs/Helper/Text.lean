import Stencil.Helper.Catalog
import Stencil.Proofs.Text.Markup
import Stencil.Proofs.Text.Percent
import Stencil.Proofs.Text.Slug

/-!
Text helpers that undo each other, and one that undoes nothing.

A template writes text for a place where it must not be taken for anything else, an address or a piece of markup, and
another one reads it back. A slug, which also goes into an address, is not read back, but there is no harm in making one
of it again. The helpers for this are called by name like all others, so the results are stated about calls: that each
of them is a helper, that it comes to a text and to no error, and what that text is.
-/

namespace Stencil.Helper.Text

open Stencil.Text

/-! ## 1. Calls by name -/

/-- A helper of text is found in its name space. -/
theorem call?_of_name {name : String} (method : String) (h : "string." ++ method = name) (positional : List Value)
    (named : Fields Value) (setting : Setting) :
    Helper.call? ⟨name, positional, named⟩ setting = call? method ⟨name, positional, named⟩ := by
  have hcut : cutAt? ['.'] name.toList = some ("string".toList, method.toList) := by
    rw [← h, String.toList_append]
    rfl
  rw [Helper.call?, hcut]
  show call? (String.ofList method.toList) _ = _
  rw [String.ofList_toList]

theorem concat_string (name s : String) (named : Fields Value) : Args.concat ⟨name, [.string s], named⟩ = s :=
  String.empty_append

section

variable (s : String) (named : Fields Value) (setting : Setting)

theorem call?_urlEncode :
    Helper.call? ⟨"string.urlEncode", [.string s], named⟩ setting = some (.ok (.string (Percent.encode s))) := by
  rw [call?_of_name "urlEncode" (by decide), call?, concat_string]

/-- What is no text in UTF-8 stays as it was. -/
theorem call?_urlDecode :
    Helper.call? ⟨"string.urlDecode", [.string s], named⟩ setting =
      some (.ok (.string ((Percent.decode? s).getD s))) := by
  rw [call?_of_name "urlDecode" (by decide), call?, concat_string]

theorem call?_htmlEscape :
    Helper.call? ⟨"string.htmlEscape", [.string s], named⟩ setting =
      some (.ok (.string (.ofList (Entity.escape s.toList)))) := by
  rw [call?_of_name "htmlEscape" (by decide), call?, concat_string]

theorem call?_htmlToText :
    Helper.call? ⟨"string.htmlToText", [.string s], named⟩ setting =
      some (.ok (.string (.ofList (Markup.toPlain s.toList)))) := by
  rw [call?_of_name "htmlToText" (by decide), call?, concat_string]

theorem call?_slugify :
    Helper.call? ⟨"string.slugify", [.string s], named⟩ setting = some (.ok (.string (.ofList (slug s.toList)))) := by
  rw [call?_of_name "slugify" (by decide), call?, concat_string]

/-! ## 2. There and back -/

/-- Any text can be written into an address: it is written in the alphabet of addresses, and is read back as it was. -/
theorem urlDecode_urlEncode :
    ∃ encoded, Helper.call? ⟨"string.urlEncode", [.string s], named⟩ setting = some (.ok (.string encoded)) ∧
      Percent.Escaped encoded.toList ∧
      Helper.call? ⟨"string.urlDecode", [.string encoded], named⟩ setting = some (.ok (.string s)) := by
  refine ⟨Percent.encode s, call?_urlEncode s named setting, Percent.escaped_encode s, ?_⟩
  rw [call?_urlDecode, Percent.decode?_encode, Option.getD_some]

/-- Nothing in an escaped text is taken for markup. What the plain form has is the text that was escaped, tidied: it
has the same words, and it is the same text if that was tidy. -/
theorem htmlToText_htmlEscape :
    ∃ escaped plain,
      Helper.call? ⟨"string.htmlEscape", [.string s], named⟩ setting = some (.ok (.string escaped)) ∧
      Helper.call? ⟨"string.htmlToText", [.string escaped], named⟩ setting = some (.ok (.string plain)) ∧
      plain.toList = Markup.tidy s.toList ∧ Markup.Tidy plain.toList ∧ words plain.toList = words s.toList ∧
      (Markup.Tidy s.toList → plain = s) := by
  refine ⟨.ofList (Entity.escape s.toList), .ofList (Markup.tidy s.toList), call?_htmlEscape s named setting, ?_,
    String.toList_ofList, ?_, ?_, fun htidy => ?_⟩
  · rw [call?_htmlToText, String.toList_ofList, Markup.toPlain_escape]
  · rw [String.toList_ofList]
    exact Markup.tidied s.toList
  · rw [String.toList_ofList]
    exact Markup.words_tidy s.toList
  · rw [Markup.tidy_eq_self htidy, String.ofList_toList]

end

/-- Neither the tags nor the reference are markup here, and the only blanks are single ones between words. -/
theorem htmlToText_htmlEscape_tags :
    Markup.Tidy "a <b>bold</b> &lt; sign".toList ∧
      ∃ escaped, Helper.call? ⟨"string.htmlEscape", [.string "a <b>bold</b> &lt; sign"], []⟩
          ⟨.ofFields [], .memory default, .utc, ⟨0, 0⟩⟩ = some (.ok (.string escaped)) ∧
        Helper.call? ⟨"string.htmlToText", [.string escaped], []⟩
          ⟨.ofFields [], .memory default, .utc, ⟨0, 0⟩⟩ = some (.ok (.string "a <b>bold</b> &lt; sign")) := by
  have htidy : Markup.Tidy "a <b>bold</b> &lt; sign".toList := Markup.tidy_iff.mpr (by decide +kernel)
  obtain ⟨escaped, plain, hescaped, hplain, -, -, -, hsame⟩ :=
    htmlToText_htmlEscape "a <b>bold</b> &lt; sign" [] ⟨.ofFields [], .memory default, .utc, ⟨0, 0⟩⟩
  refine ⟨htidy, escaped, hescaped, ?_⟩
  rw [hplain, hsame htidy]

/-! ## 3. Slugs -/

/-- **Slugs.** Any text in ASCII is made a slug of: small letters, digits and single hyphens between them, and apart from
its hyphens the slug is the letters and digits of the text, in their order and small. It is its own slug. -/
theorem slugify_slug {s : String} (hs : ∀ c ∈ s.toList, c.toNat < 128) (named : Fields Value) (setting : Setting) :
    ∃ out, Helper.call? ⟨"string.slugify", [.string s], named⟩ setting = some (.ok (.string out)) ∧
      IsSlug out.toList ∧
      out.toList.filter (· ≠ '-') = (s.toList.filter Char.isAlphanum).map Char.toLower ∧
      Helper.call? ⟨"string.slugify", [.string out], named⟩ setting = some (.ok (.string out)) := by
  have hslug := isSlug_slug hs
  refine ⟨.ofList (slug s.toList), call?_slugify s named setting, ?_, ?_, ?_⟩
  · rwa [String.toList_ofList]
  · rw [String.toList_ofList, filter_slug hs]
  · rw [call?_slugify, String.toList_ofList, hslug.slug_eq_self]

/-- Punctuation between separators brings them together. -/
theorem slugify_slug_punctuation :
    (∀ c ∈ " -_Straw, (2) & _!_ Cream.- ".toList, c.toNat < 128) ∧
      ∃ out, Helper.call? ⟨"string.slugify", [.string " -_Straw, (2) & _!_ Cream.- "], []⟩
          ⟨.ofFields [], .memory default, .utc, ⟨0, 0⟩⟩ = some (.ok (.string out)) ∧
        IsSlug out.toList ∧ out = "straw-2-cream" := by
  have hascii : ∀ c ∈ " -_Straw, (2) & _!_ Cream.- ".toList, c.toNat < 128 := by simp
  obtain ⟨out, hcall, hslug, -, -⟩ := slugify_slug hascii [] ⟨.ofFields [], .memory default, .utc, ⟨0, 0⟩⟩
  refine ⟨hascii, out, hcall, hslug, ?_⟩
  rw [call?_slugify] at hcall
  cases hcall
  decide +kernel

end Stencil.Helper.Text
