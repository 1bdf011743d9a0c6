import Stencil.Text.Basic

/-!
Comments.

A comment starts with two braces and a mark of exclamation. The plain form ends at the next two closing
braces; the form that opens with two hyphens after the mark ends at two hyphens before two closing braces, so
that tags may stand inside. A comment that never ends stays in the text, with everything after it.
-/

namespace Stencil.Template.Comment

open Stencil.Text

/-- The mark that opens a comment. -/
def mark : List Char := ['{', '{', '!']

/-- What follows the comment whose mark was just passed, when it ends. -/
def afterEnd? (cs : List Char) : Option (List Char) :=
  match cs with
  | '-' :: '-' :: rest => (cutAt? ['-', '-', '}', '}'] rest).map (·.2)
  | cs => (cutAt? ['}', '}'] cs).map (·.2)

theorem length_of_afterEnd? {cs rest : List Char} (h : afterEnd? cs = some rest) :
    rest.length ≤ cs.length := by
  unfold afterEnd? at h
  split at h <;>
  · simp only [Option.map_eq_some_iff, Prod.exists] at h
    obtain ⟨b, a, hb, rfl⟩ := h
    have := length_of_cutAt? hb
    simp only [List.length_cons] at this ⊢
    omega

/-- The text without its comments. -/
def strip (cs : List Char) : List Char :=
  match _h : cutAt? mark cs with
  | none => cs
  | some (before, after) =>
    match _h' : afterEnd? after with
    | none => before ++ mark ++ after
    | some rest => before ++ strip rest
termination_by cs.length
decreasing_by
  have h₁ := length_of_cutAt? _h
  have h₂ := length_of_afterEnd? _h'
  have h₃ : mark.length = 3 := rfl
  omega

end Stencil.Template.Comment
