import Stencil.Proofs.Text.Occurrence
import Stencil.TemplateError

/-!
Reports in the output.

A report is a comment, and what it quotes comes from templates and from data. Two hyphens would end the comment, so
hyphens that stand next to each other are pulled apart. The pairs are told from the left, though, and do not
overlap: of three hyphens the second one is moved away from the first, and then stands next to the third. So what is
between the marks of the comment has two hyphens in a row just when the message has three, and a report of any other
message ends where it seems to.
-/

namespace Stencil

/-! ## 1. Hyphens that are pulled apart -/

/-- The text with a blank between the hyphens of every pair, pairs being told from the left. -/
def pulledApart : List Char → List Char
  | '-' :: '-' :: rest => '-' :: ' ' :: '-' :: pulledApart rest
  | c :: rest => c :: pulledApart rest
  | [] => []

theorem replaceAll_hyphens (cs : List Char) :
    Text.replaceAll ['-', '-'] ['-', ' ', '-'] cs = pulledApart cs := by
  fun_induction pulledApart cs with
  | case1 rest ih => exact (Text.replaceAll_of_stripPrefix? rfl).trans (congrArg (['-', ' ', '-'] ++ ·) ih)
  | case2 c rest hpair ih =>
    have hstart : ¬ ['-', '-'] <+: c :: rest := by
      rintro ⟨tail, htail⟩
      cases htail
      exact hpair tail rfl rfl
    have hnone := Text.stripPrefix?_eq_none hstart
    exact (Text.replaceAll_of_stripPrefix?_eq_none hnone).trans (congrArg (c :: ·) ih)
  | case3 => rw [Text.replaceAll]

theorem hyphen_prefix_pulledApart (cs : List Char) : ['-'] <+: pulledApart cs ↔ ['-'] <+: cs := by
  fun_cases pulledApart cs with
  | case1 rest => simp [List.cons_prefix_cons]
  | case2 c rest _ => simp [List.cons_prefix_cons]
  | case3 => rfl

/-- Two hyphens in a row are left over from three. -/
theorem hyphens_infix_pulledApart (cs : List Char) :
    ['-', '-'] <:+: pulledApart cs ↔ ['-', '-', '-'] <:+: cs := by
  fun_induction pulledApart cs with
  | case1 rest ih =>
    -- the third hyphen would be the first one of the rest
    have hfirst : ['-', '-'] <+: rest → ['-'] <+: rest := (List.prefix_append ['-'] ['-']).trans
    simp only [List.infix_cons_iff, List.cons_prefix_cons, ih, hyphen_prefix_pulledApart]
    simp only [true_and, Char.reduceEq, false_and, false_or]
    rw [← or_assoc, or_iff_left_of_imp hfirst]
  | case2 c rest hpair ih =>
    have hleft : ¬ ['-', '-'] <+: c :: pulledApart rest := by
      rw [List.cons_prefix_cons, hyphen_prefix_pulledApart]
      rintro ⟨rfl, tail, rfl⟩
      exact hpair tail rfl rfl
    have hright : ¬ ['-', '-', '-'] <+: c :: rest := by
      rintro ⟨tail, htail⟩
      cases htail
      exact hpair _ rfl rfl
    rw [List.infix_cons_iff, List.infix_cons_iff, ih, or_iff_right hleft, or_iff_right hright]
  | case3 => simp

/-! ## 2. Comments -/

/-- The mark that ends a comment. -/
def commentEnd : List Char := ['-', '-', '>']

/-- There is no end of a comment in the text but the one that the text ends with. -/
def ClosesAtEnd (text : List Char) : Prop := ∀ before after, text = before ++ commentEnd ++ after → after = []

/-- Behind a text without two hyphens in a row, and with no hyphen at its end, a comment ends where it seems to. -/
theorem closesAtEnd_append {body : List Char} (hbody : ¬ ['-', '-'] <:+: body) (hlast : body.getLast? ≠ some '-') :
    ClosesAtEnd (body ++ commentEnd) := by
  intro before after h
  rw [List.append_assoc, List.append_eq_append_iff] at h
  rcases h with ⟨gap, -, hgap⟩ | ⟨overlap, hover, htail⟩
  · -- the end found lies behind the text, and there is no room for another one
    have hlength := congrArg List.length hgap
    simp only [List.length_append] at hlength
    exact List.length_eq_zero_iff.mp (by omega)
  · -- the end found starts in the text, and takes one or two hyphens from it
    match overlap, hover, htail with
    | [], _, htail => exact List.append_right_eq_self.mp htail
    | [c], hover, htail =>
      obtain ⟨rfl, -⟩ := List.cons.inj htail
      exact absurd (by rw [hover, List.getLast?_concat]) hlast
    | c :: d :: more, hover, htail =>
      obtain ⟨rfl, hsecond⟩ := List.cons.inj htail
      obtain ⟨rfl, -⟩ := List.cons.inj hsecond
      exact absurd ⟨before, more, by rw [hover, List.append_assoc]; rfl⟩ hbody

/-- The mark that begins a comment is no part of one that ends it, with a blank behind it. -/
theorem closesAtEnd_opened {text : List Char} (h : ClosesAtEnd (' ' :: text)) :
    ClosesAtEnd (['<', '!', '-', '-'] ++ ' ' :: text) := by
  intro before after htext
  match before, htext with
  | [], htext => simp [commentEnd] at htext
  | [_], htext => simp [commentEnd] at htext
  | [_, _], htext => simp [commentEnd] at htext
  | [_, _, _], htext => simp [commentEnd] at htext
  | _ :: _ :: _ :: _ :: before, htext =>
    simp only [List.cons_append, List.nil_append, List.cons.injEq] at htext
    exact h before after htext.2.2.2.2

/-- Two hyphens in a row do not reach across another character. -/
theorem hyphens_infix_append_cons {as bs : List Char} {c : Char} (hc : c ≠ '-') :
    ['-', '-'] <:+: as ++ c :: bs ↔ ['-', '-'] <:+: as ∨ ['-', '-'] <:+: bs := by
  induction as with
  | nil => simp [List.infix_cons_iff, List.cons_prefix_cons, hc.symm]
  | cons a as ih =>
    have hstart : ['-', '-'] <+: a :: (as ++ c :: bs) ↔ ['-', '-'] <+: a :: as := by
      cases as with
      | nil => simp [List.cons_prefix_cons, hc.symm]
      | cons b as => simp [List.cons_prefix_cons]
    rw [List.cons_append, List.infix_cons_iff, List.infix_cons_iff, hstart, ih, or_assoc]

/-! ## 3. Reports -/

/-- What stands between the marks of the comment that reports a message. -/
def reportBody (message : String) : List Char :=
  " template error:".toList ++ ' ' :: (pulledApart message.toList ++ [' '])

theorem toList_inlineReport (message : String) :
    (inlineReport message).toList = ['<', '!', '-', '-'] ++ reportBody message ++ commentEnd := by
  unfold inlineReport reportBody commentEnd
  simp [replaceAll_hyphens]

theorem hyphens_infix_reportBody (message : String) :
    ['-', '-'] <:+: reportBody message ↔ ['-', '-', '-'] <:+: message.toList := by
  have hwords : ¬ ['-', '-'] <:+: " template error:".toList := by decide +kernel
  unfold reportBody
  rw [hyphens_infix_append_cons (by decide), or_iff_right hwords, hyphens_infix_append_cons (by decide),
    hyphens_infix_pulledApart]
  simp

theorem getLast?_reportBody (message : String) : (reportBody message).getLast? = some ' ' := by
  unfold reportBody
  rw [List.getLast?_append, List.getLast?_cons, List.getLast?_concat]
  rfl

/-- **A report stays inside its comment, unless the message has three hyphens in a row.** Between the marks of the
comment there are two hyphens in a row just when the message has three, and without those the comment is closed by the
mark at its end and nowhere before. -/
theorem inlineReport_encloses (message : String) :
    ∃ body, (inlineReport message).toList = ['<', '!', '-', '-'] ++ body ++ commentEnd ∧
      (['-', '-'] <:+: body ↔ ['-', '-', '-'] <:+: message.toList) ∧
      (['-', '-', '-'] <:+: message.toList ∨ ClosesAtEnd (inlineReport message).toList) := by
  refine ⟨reportBody message, toList_inlineReport message, hyphens_infix_reportBody message, ?_⟩
  rw [Classical.or_iff_not_imp_left]
  intro hmessage
  have hbody : ¬ ['-', '-'] <:+: reportBody message := fun h => hmessage ((hyphens_infix_reportBody message).mp h)
  have hlast : (reportBody message).getLast? ≠ some '-' := by
    rw [getLast?_reportBody]
    decide
  rw [toList_inlineReport, List.append_assoc]
  exact closesAtEnd_opened (closesAtEnd_append hbody hlast)

/-- Three hyphens and a bracket end the comment too early: what follows them is shown as text. -/
theorem inlineReport_three_hyphens :
    ∃ body, (inlineReport "--->").toList = ['<', '!', '-', '-'] ++ body ++ commentEnd ∧ ['-', '-'] <:+: body ∧
      ¬ ClosesAtEnd (inlineReport "--->").toList := by
  refine ⟨reportBody "--->", toList_inlineReport "--->", ?_, fun hcloses => ?_⟩
  · exact (hyphens_infix_reportBody "--->").mpr (by decide +kernel)
  · have hearly := hcloses "<!-- template error: - ".toList " -->".toList (by decide +kernel)
    exact absurd hearly (by decide +kernel)

end Stencil
