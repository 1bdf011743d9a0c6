import Stencil.Proofs.Template.Markless

/-!
Comments that come about when others are taken out.

Where a comment is taken out, the text before it and the text behind it come together. The two may make a comment
that the source does not have: one or two opening braces stand before the comment, and the rest of a mark behind it.
The pass over the source has gone by that place and does not see it. So it is not so that a second pass finds nothing
to do, and the tokenizer may be given a source with a comment in it.

What is true is that nothing else can happen. The first comment that a second pass would take out has its mark across
a seam (`seam_in_first`), and the text before that seam ends in an opening brace, which in the source stands right
before the mark of a comment (`brace_before_seam`).
-/

namespace Stencil.Template.Comment

open Text

variable {cs before after rest : List Char}

/-! ## 1. The first comment -/

/-- The text before the first mark and the text behind its comment, when the comment ends. -/
def first? (cs : List Char) : Option (List Char × List Char) :=
  (cutAt? mark cs).bind fun (before, after) => (afterEnd? after).map fun rest => (before, rest)

theorem first?_eq_some_iff :
    first? cs = some (before, rest) ↔ ∃ after, cutAt? mark cs = some (before, after) ∧ afterEnd? after = some rest := by
  simp only [first?, Option.bind_eq_some_iff, Option.map_eq_some_iff, Prod.exists, Prod.mk.injEq]
  constructor
  · rintro ⟨_, after, hcut, _, hend, rfl, rfl⟩
    exact ⟨after, hcut, hend⟩
  · rintro ⟨after, hcut, hend⟩
    exact ⟨before, after, hcut, rest, hend, rfl, rfl⟩

theorem suffix_of_afterEnd? (h : afterEnd? cs = some rest) : rest <:+ cs := by
  unfold afterEnd? at h
  split at h
  · next tail =>
    obtain ⟨⟨before, after⟩, hcut, rfl⟩ := Option.map_eq_some_iff.mp h
    rw [eq_append_of_cutAt? hcut]
    exact (List.suffix_append _ after).trans (List.suffix_append ['-', '-'] _)
  · obtain ⟨⟨before, after⟩, hcut, rfl⟩ := Option.map_eq_some_iff.mp h
    rw [eq_append_of_cutAt? hcut]
    exact List.suffix_append _ after

theorem length_of_first? (h : first? cs = some (before, rest)) : before.length + rest.length < cs.length := by
  obtain ⟨after, hcut, hend⟩ := first?_eq_some_iff.mp h
  have hcs := length_of_cutAt? hcut
  have hafter := length_of_afterEnd? hend
  rw [show mark.length = 3 from rfl] at hcs
  omega

theorem strip_of_first? (h : first? cs = some (before, rest)) : strip cs = before ++ strip rest := by
  obtain ⟨after, hcut, hend⟩ := first?_eq_some_iff.mp h
  rw [strip]
  split
  · next hnone =>
    rw [hcut] at hnone
    cases hnone
  · next hsome =>
    rw [hcut] at hsome
    cases hsome
    split
    · next hnone =>
      rw [hend] at hnone
      cases hnone
    · next hsome =>
      rw [hend] at hsome
      cases hsome
      rfl

/-- Nothing is taken out of a text without a comment, nor out of one whose first comment never ends. -/
theorem strip_of_first?_eq_none (h : first? cs = none) : strip cs = cs := by
  rw [strip]
  split
  · rfl
  · next before after hcut =>
    split
    · exact (eq_append_of_cutAt? hcut).symm
    · next rest hend =>
      rw [first?_eq_some_iff.mpr ⟨after, hcut, hend⟩] at h
      cases h

theorem length_strip_le (cs : List Char) : (strip cs).length ≤ cs.length := by
  induction hlength : cs.length using Nat.strongRecOn generalizing cs with | _ length ih
  cases hfirst : first? cs with
  | none => exact Nat.le_of_eq (by rw [strip_of_first?_eq_none hfirst, hlength])
  | some parts =>
    obtain ⟨before, rest⟩ := parts
    have hshorter := length_of_first? hfirst
    have hrest := ih rest.length (by omega) rest rfl
    rw [strip_of_first? hfirst, List.length_append]
    omega

/-- A pass changes nothing just when the text has no first comment. -/
theorem strip_eq_self_iff : strip cs = cs ↔ first? cs = none := by
  refine ⟨fun hstrip => ?_, strip_of_first?_eq_none⟩
  cases hfirst : first? cs with
  | none => rfl
  | some parts =>
    obtain ⟨before, rest⟩ := parts
    have hshorter := length_of_first? hfirst
    have hrest := length_strip_le rest
    have hlength := congrArg List.length (strip_of_first? hfirst)
    rw [hstrip, List.length_append] at hlength
    omega

/-! ## 2. Seams -/

/-- The places in what is left of a text at which comments were taken out. -/
def seams (cs : List Char) : List Nat :=
  match _h : first? cs with
  | none => []
  | some (before, rest) => before.length :: (seams rest).map (before.length + ·)
termination_by cs.length
decreasing_by
  have := length_of_first? _h
  omega

theorem mem_seams_iff (h : first? cs = some (before, rest)) {n : Nat} :
    n ∈ seams cs ↔ n = before.length ∨ ∃ m ∈ seams rest, before.length + m = n := by
  rw [seams]
  split
  · next hnone =>
    rw [h] at hnone
    cases hnone
  · next hsome =>
    rw [h] at hsome
    cases hsome
    rw [List.mem_cons, List.mem_map]

theorem seams_of_first?_eq_none (h : first? cs = none) : seams cs = [] := by
  rw [seams]
  split
  · rfl
  · next hsome =>
    rw [h] at hsome
    cases hsome

/-- A second pass would take something out, and the mark of it lies across a seam. -/
def Rejoined (cs : List Char) : Prop :=
  ∃ before rest, first? (strip cs) = some (before, rest) ∧
    ∃ seam ∈ seams cs, before.length < seam ∧ seam < before.length + mark.length

/-! ## 3. What a second pass finds -/

/-- The first comment of what is left has its mark across a seam. -/
theorem seam_in_first (h : first? (strip cs) = some (before, rest)) :
    ∃ seam ∈ seams cs, before.length < seam ∧ seam < before.length + mark.length := by
  induction hlength : cs.length using Nat.strongRecOn generalizing cs before with | _ length ih
  cases hfirst : first? cs with
  | none =>
    rw [strip_of_first?_eq_none hfirst, hfirst] at h
    cases h
  | some parts =>
    obtain ⟨kept, others⟩ := parts
    have hshorter := length_of_first? hfirst
    rw [strip_of_first? hfirst] at h
    obtain ⟨after, hcut, hend⟩ := first?_eq_some_iff.mp h
    obtain ⟨_, hkept, -⟩ := first?_eq_some_iff.mp hfirst
    -- either the mark is over before the first seam, or begins behind it, or lies across it
    rcases Nat.lt_or_ge before.length kept.length with hbefore | hbehind
    · rcases Nat.lt_or_ge kept.length (before.length + mark.length) with hacross | hover
      · exact ⟨kept.length, (mem_seams_iff hfirst).mpr (.inl rfl), hbefore, hacross⟩
      · have hmark : before ++ mark <+: kept := by
          refine List.prefix_of_prefix_length_le ⟨after, (eq_append_of_cutAt? hcut).symm⟩ (List.prefix_append _ _) ?_
          rwa [List.length_append]
        have hinfix : mark <:+: kept := (List.suffix_append before mark).isInfix.trans hmark.isInfix
        exact absurd hinfix (not_infix_of_cutAt? (List.cons_ne_nil _ _) hkept)
    · obtain ⟨between, rfl⟩ : kept <+: before := by
        refine List.prefix_of_prefix_length_le (List.prefix_append kept (strip others)) ?_ hbehind
        rw [eq_append_of_cutAt? hcut, List.append_assoc]
        exact List.prefix_append _ _
      have hagain := first?_eq_some_iff.mpr ⟨after, cutAt?_of_append hcut, hend⟩
      obtain ⟨seam, hseam, hfrom, hto⟩ := ih others.length (by omega) hagain rfl
      rw [List.length_append]
      exact ⟨kept.length + seam, (mem_seams_iff hfirst).mpr (.inr ⟨seam, hseam, rfl⟩), by omega, by omega⟩

/-- An opening brace before a seam stands in the source right before the mark of a comment. -/
theorem brace_before_seam {seam : Nat} (hseam : seam + 1 ∈ seams cs) (hbrace : (strip cs)[seam]? = some '{') :
    '{' :: mark <:+: cs := by
  induction hlength : cs.length using Nat.strongRecOn generalizing cs seam with | _ length ih
  cases hfirst : first? cs with
  | none =>
    rw [seams_of_first?_eq_none hfirst] at hseam
    cases hseam
  | some parts =>
    obtain ⟨kept, others⟩ := parts
    have hshorter := length_of_first? hfirst
    obtain ⟨after, hcut, hend⟩ := first?_eq_some_iff.mp hfirst
    have hcs := eq_append_of_cutAt? hcut
    rw [strip_of_first? hfirst] at hbrace
    by_cases hlast : seam < kept.length
    · -- the brace ends what was kept before the first comment
      have hend : kept.length = seam + 1 := by
        rcases (mem_seams_iff hfirst).mp hseam with hseam | ⟨m, -, hm⟩
        · exact hseam.symm
        · omega
      rw [List.getElem?_append_left hlast] at hbrace
      have hkept : kept.getLast? = some '{' := by rwa [List.getLast?_eq_getElem?, hend, Nat.add_sub_cancel]
      obtain ⟨front, rfl⟩ := List.getLast?_eq_some_iff.mp hkept
      rw [hcs]
      exact ⟨front, after, by simp⟩
    · rw [Nat.not_lt] at hlast
      rw [List.getElem?_append_right hlast] at hbrace
      rcases (mem_seams_iff hfirst).mp hseam with hseam | ⟨m, hm, hsum⟩
      · omega
      · have hm' : seam - kept.length + 1 = m := by omega
        have hinfix := ih others.length (by omega) (hm' ▸ hm) hbrace rfl
        refine hinfix.trans (List.IsInfix.trans ?_ (hcs ▸ (List.suffix_append _ after).isInfix))
        exact (suffix_of_afterEnd? hend).isInfix

/-! ## 4. Two passes -/

/-- **A second pass changes nothing, unless a mark came about at a seam.** That takes a comment right behind an opening
brace in the source. -/
theorem strip_strip_eq_iff (cs : List Char) :
    (strip (strip cs) = strip cs ↔ ¬ Rejoined cs) ∧ (Rejoined cs → '{' :: mark <:+: cs) := by
  constructor
  · rw [strip_eq_self_iff]
    constructor
    · rintro hnone ⟨before, rest, hfirst, -⟩
      rw [hnone] at hfirst
      cases hfirst
    · intro hrejoined
      cases hfirst : first? (strip cs) with
      | none => rfl
      | some parts => exact absurd ⟨parts.1, parts.2, hfirst, seam_in_first hfirst⟩ hrejoined
  · rintro ⟨before, rest, hfirst, seam, hseam, hfrom, hto⟩
    obtain ⟨after, hcut, -⟩ := first?_eq_some_iff.mp hfirst
    obtain ⟨n, rfl⟩ : ∃ n, seam = n + 1 := ⟨seam - 1, by omega⟩
    refine brace_before_seam hseam ?_
    -- the seam is behind the first or the second brace of the mark
    rw [eq_append_of_cutAt? hcut, List.append_assoc, List.getElem?_append_right (by omega)]
    rw [show mark.length = 3 from rfl] at hto
    have hplace : n - before.length = 0 ∨ n - before.length = 1 := by omega
    rcases hplace with hplace | hplace <;> rw [hplace] <;> rfl

/-- Two braces, a comment, and the rest of a mark: when the comment is taken out, what is left is a comment. -/
theorem strip_leaves_comment : ¬ ∀ cs : List Char, strip (strip cs) = strip cs := by
  intro h
  have hfirst : first? "\x7b\x7b\x7b\x7b! a \x7d\x7d! b \x7d\x7d".toList =
      some (['{', '{'], "! b \x7d\x7d".toList) := by decide +kernel
  have hrest : first? "! b \x7d\x7d".toList = none := by decide +kernel
  have hagain : first? (['{', '{'] ++ "! b \x7d\x7d".toList) = some ([], []) := by decide +kernel
  have hstrip := strip_of_first? hfirst
  rw [strip_of_first?_eq_none hrest] at hstrip
  have hnone := strip_eq_self_iff.mp (h "\x7b\x7b\x7b\x7b! a \x7d\x7d! b \x7d\x7d".toList)
  rw [hstrip, hagain] at hnone
  cases hnone

end Stencil.Template.Comment
