/-!
Globs.

In a glob every star stands for any run of characters, and every other character for itself. The text is gone
through from its front. A star that is met stands for nothing at first; where the text goes on otherwise than the
glob does, the last star takes one character more and everything behind it is tried again. No star before the last
one is gone back to.

The walk ends because it never leaves the stretch behind the last star: between that star and where the walk stands,
glob and text are the same and hold no star (`Place.Sound`). So a new star leaves less of the glob than the one
before, and going back leaves less of the text than before.
-/

namespace Stencil.Filter

namespace Glob

/-! ## 1. One step -/

/-- The last star that was met: the glob behind it, and the text from where it stops for now. -/
structure Star where
  glob : List Char
  text : List Char
  deriving DecidableEq, Repr

/-- Where the walk stands: what is left of the glob and of the text, and the star to go back to. -/
structure Place where
  glob : List Char
  text : List Char
  star : Option Star
  deriving DecidableEq, Repr

/-- What a step comes to: an answer, or the next place. -/
inductive Progress where
  | answer (isMatch : Bool)
  | further (place : Place)
  deriving DecidableEq, Repr

namespace Place

/-- The last star takes one character more. Without a star there is no match. -/
def back (p : Place) : Progress :=
  match p.star with
  | some star => .further ⟨star.glob, star.text.tail, some ⟨star.glob, star.text.tail⟩⟩
  | none => .answer false

/-- One step. At the end of the text nothing but stars may be left of the glob. -/
def step (p : Place) : Progress :=
  match p.text with
  | [] => .answer (p.glob.all (· == '*'))
  | c :: text =>
    match p.glob with
    | [] => p.back
    | d :: glob =>
      if d = '*' then .further ⟨glob, p.text, some ⟨glob, p.text⟩⟩
      else if d = c then .further ⟨glob, text, p.star⟩
      else p.back

/-- Between the last star and this place glob and text are the same, without a star. -/
def Sound (p : Place) : Prop :=
  ∀ star ∈ p.star, ∃ stretch, '*' ∉ stretch ∧ star.glob = stretch ++ p.glob ∧ star.text = stretch ++ p.text

/-! ## 2. The walk -/

variable {p q : Place}

theorem sound_of_star (glob text : List Char) : Sound ⟨glob, text, some ⟨glob, text⟩⟩ := by
  intro star hstar
  obtain rfl := Option.mem_some.mp hstar
  exact ⟨[], List.not_mem_nil, rfl, rfl⟩

theorem eq_of_back (h : p.back = .further q) :
    ∃ star ∈ p.star, q = ⟨star.glob, star.text.tail, some ⟨star.glob, star.text.tail⟩⟩ := by
  unfold back at h
  split at h
  · next star hstar =>
    cases h
    exact ⟨star, hstar, rfl⟩
  · cases h

/-- What a step can do: meet a star, go past a character that glob and text share, or go back. -/
theorem step_cases (h : p.step = .further q) :
    (∃ glob c text, p.glob = '*' :: glob ∧ p.text = c :: text ∧ q = ⟨glob, p.text, some ⟨glob, p.text⟩⟩) ∨
    (∃ glob c text, c ≠ '*' ∧ p.glob = c :: glob ∧ p.text = c :: text ∧ q = ⟨glob, text, p.star⟩) ∨
    (∃ star ∈ p.star, p.text ≠ [] ∧ q = ⟨star.glob, star.text.tail, some ⟨star.glob, star.text.tail⟩⟩) := by
  unfold step at h
  split at h
  · cases h
  · next c text htext =>
    have hsome : p.text ≠ [] := by simp [htext]
    split at h
    · obtain ⟨star, hstar, hq⟩ := eq_of_back h
      exact .inr (.inr ⟨star, hstar, hsome, hq⟩)
    · next d glob hglob =>
      by_cases hd : d = '*'
      · subst hd
        rw [if_pos rfl] at h
        cases h
        exact .inl ⟨glob, c, text, hglob, htext, rfl⟩
      · rw [if_neg hd] at h
        by_cases hc : d = c
        · subst hc
          rw [if_pos rfl] at h
          cases h
          exact .inr (.inl ⟨glob, d, text, hd, hglob, htext, rfl⟩)
        · rw [if_neg hc] at h
          obtain ⟨star, hstar, hq⟩ := eq_of_back h
          exact .inr (.inr ⟨star, hstar, hsome, hq⟩)

theorem Sound.step (hp : p.Sound) (h : p.step = .further q) : q.Sound := by
  obtain ⟨glob, c, text, -, -, rfl⟩ | ⟨glob, c, text, hc, hglob, htext, rfl⟩ | ⟨star, -, -, rfl⟩ := step_cases h
  · exact sound_of_star _ _
  · intro star hstar
    -- the stretch grows by the character that was gone past
    obtain ⟨stretch, hnone, hstarGlob, hstarText⟩ := hp star hstar
    refine ⟨stretch ++ [c], ?_, ?_, ?_⟩
    · simpa using ⟨hnone, Ne.symm hc⟩
    · rw [hstarGlob, hglob, List.append_assoc, List.singleton_append]
    · rw [hstarText, htext, List.append_assoc, List.singleton_append]
  · exact sound_of_star _ _

/-- What is left of the glob behind the last star; before the first one it is more than all of it. -/
def globLeft (p : Place) : Nat :=
  match p.star with
  | some star => star.glob.length
  | none => p.glob.length + 1

/-- What is left of the text behind the last star. -/
def textLeft (p : Place) : Nat :=
  match p.star with
  | some star => star.text.length
  | none => 0

/-- The walk from a place, step after step to an answer. -/
def run (p : Place) (hp : p.Sound) : Bool :=
  match h : p.step with
  | .answer isMatch => isMatch
  | .further q => run q (hp.step h)
termination_by (p.globLeft, p.textLeft, p.text.length)
decreasing_by
  obtain ⟨glob, c, text, hglob, -, rfl⟩ | ⟨glob, c, text, -, hglob, htext, rfl⟩ | ⟨star, hstar, hsome, rfl⟩ :=
    step_cases h
  · refine .left _ _ ?_
    cases hstar : p.star with
    | none => simp only [globLeft, hstar, hglob, List.length_cons]; omega
    | some star =>
      obtain ⟨stretch, -, hstarGlob, -⟩ := hp star hstar
      simp only [globLeft, hstar, hstarGlob, hglob, List.length_append, List.length_cons]
      omega
  · cases hstar : p.star with
    | none =>
      refine .left _ _ ?_
      simp only [globLeft, hstar, hglob, List.length_cons]
      omega
    | some star =>
      simp only [globLeft, textLeft, hstar]
      refine .right _ (.right _ ?_)
      simp only [htext, List.length_cons]
      omega
  · obtain ⟨stretch, -, -, hstarText⟩ := hp star hstar
    have hlength : 0 < star.text.length := by
      rw [hstarText, List.length_append]
      have := List.length_pos_iff.mpr hsome
      omega
    simp only [globLeft, textLeft, Option.mem_def.mp hstar]
    refine .right _ (.left _ _ ?_)
    rw [List.length_tail]
    omega

end Place

/-- Where the walk starts: before the glob and the text, without a star. -/
def start (glob text : List Char) : Place := ⟨glob, text, none⟩

theorem sound_start (glob text : List Char) : (start glob text).Sound := nofun

end Glob

/-- Whether the text matches the glob. -/
def globMatches (glob text : List Char) : Bool := (Glob.start glob text).run (Glob.sound_start glob text)

end Stencil.Filter
