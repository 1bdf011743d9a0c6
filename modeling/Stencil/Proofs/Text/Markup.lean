import Stencil.Proofs.Text.Entity
import Stencil.Proofs.Text.Search
import Stencil.Proofs.Text.Tidy

/-!
Escaped text in markup.

All patterns for tags begin with an angle bracket, and escaped text has none. So nothing in it is taken for a tag, a
script, a heading, a link or an end of a line or block, whatever the text says; the references are resolved to the text
that was escaped, and it is tidied. Both readable forms come to the same there.
-/

namespace Stencil.Text.Markup

open Search

variable {cs : List Char}

/-- Without an angle bracket there is no tag to be dropped. -/
theorem finish_of_not_mem (h : '<' ∉ cs) : finish cs = tidy (Entity.unescape cs) := by
  have htag : BeginsWith '<' anyTag := .both .exactly
  rw [finish, replace_eq_self htag h]

theorem toPlain_of_not_mem (h : '<' ∉ cs) : toPlain cs = tidy (Entity.unescape cs) := by
  have hscript : BeginsWith '<' scriptOrStyle := .both (.both .exactly)
  have hbreak : BeginsWith '<' lineBreak := .both .exactly
  have hend : BeginsWith '<' blockEnd := .both .exactly
  rw [toPlain, replace_eq_self hscript h, replace_eq_self hbreak h, replace_eq_self hend h]
  exact finish_of_not_mem h

theorem toLight_of_not_mem (h : '<' ∉ cs) : toLight cs = tidy (Entity.unescape cs) := by
  have helement : ∀ names, BeginsWith '<' (element names) := fun _ => .both (.both .exactly)
  have hscript : BeginsWith '<' scriptOrStyle := helement _
  have hheading : BeginsWith '<' heading := .both .exactly
  have hlink : BeginsWith '<' link := .both .exactly
  have himage : BeginsWith '<' image := .both .exactly
  have hitem : BeginsWith '<' listItem := .both .exactly
  have hbreak : BeginsWith '<' lineBreak := .both .exactly
  have hend : BeginsWith '<' blockEnd := .both .exactly
  rw [toLight, replace_eq_self hscript h, replace_eq_self hheading h, replace_eq_self (helement _) h,
    replace_eq_self (helement _) h, replace_eq_self (helement _) h, replace_eq_self hlink h,
    replace_eq_self himage h, replace_eq_self hitem h, replace_eq_self hbreak h, replace_eq_self hend h]
  exact finish_of_not_mem h

/-- Of escaped text only blanks are changed. -/
theorem toPlain_escape (cs : List Char) : toPlain (Entity.escape cs) = tidy cs := by
  rw [toPlain_of_not_mem (Entity.not_mem_escape (by decide) cs), Entity.unescape_escape]

theorem toLight_escape (cs : List Char) : toLight (Entity.escape cs) = tidy cs := by
  rw [toLight_of_not_mem (Entity.not_mem_escape (by decide) cs), Entity.unescape_escape]

end Stencil.Text.Markup
