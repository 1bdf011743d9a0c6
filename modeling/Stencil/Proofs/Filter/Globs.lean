import Mathlib.Data.List.Infix
import Stencil.Filter.Glob

/-!
What a glob matches.

A text matches a glob when it comes of it by putting some text in the place of every star. The walk tries far fewer
ways of doing so than there are: once it has met a star, it never lets an earlier one take more. Nothing is lost by
that. Whatever a later stop of the earlier star leads to can be had from where the earlier star stopped first, since the
new star takes up the difference (`Sound.later`). So one step changes nothing about whether there is a way
(`step_matches`), and neither does the whole walk.
-/

namespace Stencil.Filter.Glob

/-! ## 1. Texts of a glob -/

/-- A text that comes of a glob when some text is put in the place of every star. -/
inductive Fills : List Char → List Char → Prop
  | nil : Fills [] []
  | star {glob text : List Char} (run : List Char) (rest : Fills glob text) : Fills ('*' :: glob) (run ++ text)
  | char {glob text : List Char} {c : Char} (plain : c ≠ '*') (rest : Fills glob text) : Fills (c :: glob) (c :: text)

variable {glob text : List Char}

theorem fills_star_iff : Fills ('*' :: glob) text ↔ ∃ rest, rest <:+ text ∧ Fills glob rest := by
  constructor
  · intro h
    cases h with
    | star run rest => exact ⟨_, List.suffix_append run _, rest⟩
    | char plain _ => exact absurd rfl plain
  · rintro ⟨rest, ⟨run, rfl⟩, hrest⟩
    exact .star run hrest

theorem fills_char_iff {c : Char} (hc : c ≠ '*') :
    Fills (c :: glob) text ↔ ∃ rest, text = c :: rest ∧ Fills glob rest := by
  constructor
  · intro h
    cases h with
    | star _ _ => exact absurd rfl hc
    | char _ rest => exact ⟨_, rfl, rest⟩
  · rintro ⟨rest, rfl, hrest⟩
    exact .char hc hrest

/-- A stretch without a star stands for itself. -/
theorem fills_append_iff {stretch : List Char} (hnone : '*' ∉ stretch) :
    Fills (stretch ++ glob) text ↔ ∃ rest, text = stretch ++ rest ∧ Fills glob rest := by
  induction stretch generalizing text with
  | nil => simp
  | cons c stretch ih =>
    rw [List.mem_cons, not_or] at hnone
    rw [List.cons_append, fills_char_iff (Ne.symm hnone.1)]
    constructor
    · rintro ⟨rest, rfl, hrest⟩
      obtain ⟨rest, rfl, hfills⟩ := (ih hnone.2).mp hrest
      exact ⟨rest, rfl, hfills⟩
    · rintro ⟨rest, rfl, hrest⟩
      exact ⟨stretch ++ rest, rfl, (ih hnone.2).mpr ⟨rest, rfl, hrest⟩⟩

/-- The empty text comes of stars alone. -/
theorem fills_nil_iff : Fills glob [] ↔ glob.all (· == '*') = true := by
  induction glob with
  | nil => exact ⟨fun _ => rfl, fun _ => .nil⟩
  | cons c glob ih =>
    rw [List.all_cons, Bool.and_eq_true, beq_iff_eq, ← ih]
    by_cases hc : c = '*'
    · subst hc
      rw [fills_star_iff]
      simp
    · rw [fills_char_iff hc]
      simp [hc]

/-- What a suffix matches behind a star, the whole text matches. -/
theorem Fills.of_suffix {rest : List Char} (h : Fills ('*' :: glob) rest) (hrest : rest <:+ text) :
    Fills ('*' :: glob) text := by
  rw [fills_star_iff] at h ⊢
  obtain ⟨last, hlast, hfills⟩ := h
  exact ⟨last, hlast.trans hrest, hfills⟩

/-- A suffix is the whole text or begins later. -/
theorem exists_suffix_iff {P : List Char → Prop} :
    (∃ rest, rest <:+ text ∧ P rest) ↔ P text ∨ ∃ rest, rest <:+ text.tail ∧ P rest := by
  have hsuffix (rest : List Char) : rest <:+ text ↔ rest = text ∨ rest <:+ text.tail := by
    cases text with
    | nil => simp
    | cons c text => exact List.suffix_cons_iff
  constructor
  · rintro ⟨rest, hrest, h⟩
    obtain rfl | hrest := (hsuffix rest).mp hrest
    · exact .inl h
    · exact .inr ⟨rest, hrest, h⟩
  · rintro (h | ⟨rest, hrest, h⟩)
    · exact ⟨text, List.suffix_refl text, h⟩
    · exact ⟨rest, (hsuffix rest).mpr (.inr hrest), h⟩

/-! ## 2. One step -/

namespace Place

variable {p q : Place}

/-- There is a way on from a place: as it stands, or with the last star taking more. -/
def Matches (p : Place) : Prop :=
  Fills p.glob p.text ∨ ∃ star ∈ p.star, ∃ text, text <:+ star.text.tail ∧ Fills star.glob text

/-- A way on with the last star taking more goes past the same stretch again, further on in the text. -/
theorem Sound.later (hp : p.Sound) {star : Star} (hstar : star ∈ p.star) (htext : text <:+ star.text.tail)
    (hfills : Fills star.glob text) : ∃ rest, rest <:+ p.text.tail ∧ Fills p.glob rest := by
  obtain ⟨stretch, hnone, hstarGlob, hstarText⟩ := hp star hstar
  rw [hstarGlob] at hfills
  obtain ⟨rest, rfl, hrest⟩ := (fills_append_iff hnone).mp hfills
  refine ⟨rest, ?_, hrest⟩
  -- both are ends of one text, and the stretch in front of the rest tells that the rest is the shorter one
  have hlength := htext.length_le
  have hends : rest <:+ star.text ∧ p.text.tail <:+ star.text := by
    constructor
    · exact ((List.suffix_append stretch rest).trans htext).trans (List.tail_suffix _)
    · rw [hstarText]
      exact (List.tail_suffix _).trans (List.suffix_append stretch _)
  refine List.suffix_of_suffix_length_le hends.1 hends.2 ?_
  rw [hstarText, List.length_tail, List.length_append, List.length_append] at hlength
  rw [List.length_tail]
  by_cases hempty : stretch = []
  · subst hempty
    simpa using hlength
  · have := List.length_pos_iff.mpr hempty
    omega

/-- Going back is right where there is no way on as it stands. -/
theorem back_matches (hnow : ¬ Fills p.glob p.text) :
    (∀ b, p.back = .answer b → (b = true ↔ p.Matches)) ∧ ∀ q, p.back = .further q → (q.Matches ↔ p.Matches) := by
  unfold back Matches
  cases hstar : p.star with
  | none => simp [hnow]
  | some star =>
    constructor
    · intro b hb
      cases hb
    · intro q hq
      cases hq
      simp only [Option.mem_def, Option.some.injEq, exists_eq_left', hnow, false_or]
      exact exists_suffix_iff.symm

/-- A new star takes the place of the one before: whatever could be had from that one can be had from it. -/
theorem star_matches (hp : p.Sound) (hglob : p.glob = '*' :: glob) :
    Matches ⟨glob, p.text, some ⟨glob, p.text⟩⟩ ↔ p.Matches := by
  have hnew : Matches ⟨glob, p.text, some ⟨glob, p.text⟩⟩ ↔ Fills p.glob p.text := by
    rw [hglob, fills_star_iff, exists_suffix_iff, Matches]
    simp only [Option.mem_def, Option.some.injEq, exists_eq_left']
  rw [hnew]
  constructor
  · exact .inl
  · rintro (h | ⟨star, hstar, text, htext, h⟩)
    · exact h
    · obtain ⟨rest, hrest, hfills⟩ := hp.later hstar htext h
      rw [hglob] at hfills ⊢
      exact hfills.of_suffix (hrest.trans (List.tail_suffix _))

/-- A step answers rightly, or leaves it as it was whether there is a way on. -/
theorem step_matches (hp : p.Sound) :
    (∀ b, p.step = .answer b → (b = true ↔ p.Matches)) ∧ ∀ q, p.step = .further q → (q.Matches ↔ p.Matches) := by
  unfold step
  cases htext : p.text with
  | nil =>
    refine ⟨fun b hb => ?_, nofun⟩
    cases hb
    rw [← fills_nil_iff, ← htext]
    constructor
    · exact .inl
    · rintro (h | ⟨star, hstar, text, hsuffix, h⟩)
      · exact h
      · -- at the end of the text there is no more for the last star to take
        obtain ⟨rest, hrest, hfills⟩ := hp.later hstar hsuffix h
        rw [htext] at hrest ⊢
        rwa [List.suffix_nil.mp hrest] at hfills
  | cons c text =>
    dsimp only
    cases hglob : p.glob with
    | nil =>
      refine back_matches ?_
      rw [hglob, htext]
      exact nofun
    | cons d glob =>
      dsimp only
      by_cases hd : d = '*'
      · subst hd
        rw [if_pos rfl, ← htext]
        refine ⟨nofun, fun q hq => ?_⟩
        cases hq
        exact star_matches hp hglob
      · rw [if_neg hd]
        by_cases hc : d = c
        · subst hc
          rw [if_pos rfl]
          refine ⟨nofun, fun q hq => ?_⟩
          cases hq
          rw [Matches, Matches, hglob, htext, fills_char_iff hd]
          simp
        · rw [if_neg hc]
          refine back_matches ?_
          rw [hglob, htext, fills_char_iff hd]
          rintro ⟨rest, heq, -⟩
          exact hc (List.cons.inj heq).1.symm

/-! ## 3. The walk -/

/-- After some steps from a place there is an answer. -/
inductive Halts : Place → Bool → Prop
  | answer {p : Place} {b : Bool} (step : p.step = .answer b) : Halts p b
  | further {p q : Place} {b : Bool} (step : p.step = .further q) (rest : Halts q b) : Halts p b

theorem halts_run (p : Place) (hp : p.Sound) : p.Halts (p.run hp) := by
  fun_induction run p hp with
  | case1 p hp b h => exact .answer h
  | case2 p hp q h ih => exact .further h ih

theorem Halts.matches {b : Bool} (h : p.Halts b) (hp : p.Sound) : b = true ↔ p.Matches := by
  induction h with
  | answer h => exact (step_matches hp).1 _ h
  | further h _ ih => rw [ih (hp.step h), (step_matches hp).2 _ h]

end Place

/-- **A glob matches the texts that come of it, and no others.** The walk comes to an answer for every glob and every
text, and the answer is yes just when the text is the glob with some text, maybe none, in the place of every star. -/
theorem globMatches_exact (glob text : List Char) :
    (start glob text).Halts (globMatches glob text) ∧ (globMatches glob text = true ↔ Fills glob text) := by
  have hhalts : (start glob text).Halts (globMatches glob text) := Place.halts_run _ (sound_start glob text)
  refine ⟨hhalts, ?_⟩
  rw [hhalts.matches (sound_start glob text), Place.Matches]
  exact or_iff_left nofun

example : globMatches "*pass*word*".toList "bypass_passwd_words".toList = true := by cbv

end Stencil.Filter.Glob
