import Mathlib.Data.List.Infix
import Stencil.Proofs.Text.Ascii
import Stencil.Proofs.Text.Ends
import Stencil.Text.Slug

/-!
Slugs.

A slug comes about in passes: blanks go from the ends, letters become small, all that is neither part of a word nor a
separator is dropped, every run of separators becomes one hyphen, and hyphens go from the ends. What is dropped can
bring separators together that were apart before, so the shape of a slug is due to the last two passes alone, whatever
they are given. Its letters and digits pass through all five, and each pass is said by what it does to them.

A text that has the shape of a slug is not changed by any pass, so the slug of a slug is that slug.
-/

namespace Stencil.Text

variable {c : Char} {cs : List Char}

/-- Small letters, digits and the hyphen. -/
def IsSlugChar (c : Char) : Prop := c.isLower = true ∨ c.isDigit = true ∨ c = '-'

instance (c : Char) : Decidable (IsSlugChar c) := inferInstanceAs (Decidable (_ ∨ _))

/-- A text fit for an address: small letters and digits, and single hyphens between them. -/
structure IsSlug (cs : List Char) : Prop where
  chars : ∀ c ∈ cs, IsSlugChar c
  head : '-' ∉ cs.head?
  last : '-' ∉ cs.getLast?
  /-- There are no two hyphens in a row. -/
  single : ¬ ['-', '-'] <:+: cs

/-! ## 1. Characters -/

/-- Whether a character is kept until the separators are told from the rest. -/
def isSlugPart (c : Char) : Bool := isWordPart c || isBlank c || c == '-'

/-- What is kept of ASCII is letters, digits and separators. -/
theorem isSlugGap_of_isSlugPart (hc : c.toNat < 128) (h : isSlugPart c = true) : isSlugGap c = !c.isAlphanum :=
  forall_ascii (p := fun c => isSlugPart c = true → isSlugGap c = !c.isAlphanum) (by decide) c hc h

theorem isSlugPart_of_isAlphanum (hc : c.toNat < 128) (h : c.isAlphanum = true) : isSlugPart c = true := by
  rw [isSlugPart, isWordPart, if_pos hc, h, Bool.true_or, Bool.true_or, Bool.true_or]

theorem isAlphanum_of_isBlank (hc : c.toNat < 128) (h : isBlank c = true) : c.isAlphanum = false :=
  forall_ascii (p := fun c => isBlank c = true → c.isAlphanum = false) (by decide) c hc h

theorem toLower_ascii (hc : c.toNat < 128) : c.toLower.toNat < 128 ∧ c.toLower.isAlphanum = c.isAlphanum :=
  forall_ascii (p := fun c => c.toLower.toNat < 128 ∧ c.toLower.isAlphanum = c.isAlphanum) (by decide) c hc

/-- A small letter or digit in place of each letter or digit. -/
theorem isLower_or_isDigit_toLower (hc : c.toNat < 128) (h : c.isAlphanum = true) :
    c.toLower.isLower = true ∨ c.toLower.isDigit = true :=
  forall_ascii (p := fun c => c.isAlphanum = true → c.toLower.isLower = true ∨ c.toLower.isDigit = true) (by decide)
    c hc h

/-! ## 2. The last two passes -/

/-- A hyphen stands for a run of separators, so no other one follows it; in a run there is no further hyphen. -/
theorem single_hyphenate (inRun : Bool) (cs : List Char) :
    ¬ ['-', '-'] <:+: hyphenate inRun cs ∧ (inRun = true → '-' ∉ (hyphenate inRun cs).head?) := by
  induction cs generalizing inRun with
  | nil => exact ⟨by simp [hyphenate], fun _ => nofun⟩
  | cons c cs ih =>
    by_cases hc : isSlugGap c = true
    · obtain ⟨hsingle, hhead⟩ := ih true
      rw [hyphenate, if_pos hc]
      cases inRun with
      | true => exact ⟨hsingle, hhead⟩
      | false =>
        refine ⟨fun hdouble => ?_, nofun⟩
        rcases List.infix_cons_iff.mp hdouble with hstart | hdouble
        · obtain ⟨tail, htail⟩ := (List.cons_prefix_cons.mp hstart).2
          exact hhead rfl (by rw [← htail]; rfl)
        · exact hsingle hdouble
    · obtain ⟨hsingle, -⟩ := ih false
      have hhyphen : c ≠ '-' := by
        rintro rfl
        exact hc rfl
      rw [hyphenate, if_neg hc]
      refine ⟨fun hdouble => ?_, fun _ hhead => hhyphen (Option.some.inj hhead)⟩
      rcases List.infix_cons_iff.mp hdouble with hstart | hdouble
      · exact hhyphen (List.cons_prefix_cons.mp hstart).1.symm
      · exact hsingle hdouble

theorem single_trimHyphens (hsingle : ¬ ['-', '-'] <:+: cs) : ¬ ['-', '-'] <:+: trimHyphens cs :=
  fun hdouble => hsingle (hdouble.trans (rdropWhile_dropWhile_within (· == '-') cs))

theorem head?_trimHyphens (cs : List Char) : '-' ∉ (trimHyphens cs).head? :=
  fun hhead => absurd (head?_rdropWhile_dropWhile (· == '-') cs '-' hhead) (by decide)

theorem getLast?_trimHyphens (cs : List Char) : '-' ∉ (trimHyphens cs).getLast? :=
  fun hlast => absurd (getLast?_rdropWhile (· == '-') _ '-' hlast) (by decide)

/-! ## 3. Letters and digits, pass by pass -/

theorem filter_hyphenate (inRun : Bool) (cs : List Char) :
    (hyphenate inRun cs).filter (· ≠ '-') = cs.filter (! isSlugGap ·) := by
  induction cs generalizing inRun with
  | nil => rfl
  | cons c cs ih =>
    by_cases hc : isSlugGap c = true
    · rw [hyphenate, if_pos hc, List.filter_cons_of_neg (by simp [hc])]
      split
      · exact ih true
      · rw [List.filter_cons_of_neg (by simp), ih true]
    · have hhyphen : c ≠ '-' := by
        rintro rfl
        exact hc rfl
      rw [hyphenate, if_neg hc, List.filter_cons_of_pos (by simpa using hhyphen),
        List.filter_cons_of_pos (by simpa using hc), ih false]

theorem filter_trimHyphens (cs : List Char) : (trimHyphens cs).filter (· ≠ '-') = cs.filter (· ≠ '-') :=
  filter_rdropWhile_dropWhile fun c _ hc => by simpa using hc

theorem filter_trim (h : ∀ c ∈ cs, c.toNat < 128) : (trim cs).filter Char.isAlphanum = cs.filter Char.isAlphanum :=
  filter_rdropWhile_dropWhile fun c hc hblank => isAlphanum_of_isBlank (h c hc) hblank

theorem filter_map_toLower (h : ∀ c ∈ cs, c.toNat < 128) :
    (cs.map Char.toLower).filter Char.isAlphanum = (cs.filter Char.isAlphanum).map Char.toLower := by
  rw [List.filter_map]
  exact congrArg _ (List.filter_congr fun c hc => (toLower_ascii (h c hc)).2)

/-- Of the characters that are kept, those that separate nothing are the letters and digits. -/
theorem filter_isSlugPart (h : ∀ c ∈ cs, c.toNat < 128) :
    (cs.filter isSlugPart).filter (! isSlugGap ·) = cs.filter Char.isAlphanum := by
  rw [List.filter_filter]
  refine List.filter_congr fun c hc => ?_
  by_cases hpart : isSlugPart c = true
  · rw [hpart, Bool.and_true, isSlugGap_of_isSlugPart (h c hc) hpart, Bool.not_not]
  · have hnot : ¬ c.isAlphanum = true := fun halnum => hpart (isSlugPart_of_isAlphanum (h c hc) halnum)
    rw [Bool.eq_false_iff.mpr hpart, Bool.and_false, Bool.eq_false_iff.mpr hnot]

/-! ## 4. Slugs -/

/-- Between its hyphens a slug has the letters and digits of the text, in their order and small. -/
theorem filter_slug (h : ∀ c ∈ cs, c.toNat < 128) :
    (slug cs).filter (· ≠ '-') = (cs.filter Char.isAlphanum).map Char.toLower := by
  have htrim : ∀ c ∈ trim cs, c.toNat < 128 := fun c hc => h c ((trim_within cs).subset hc)
  have hlower : ∀ c ∈ (trim cs).map Char.toLower, c.toNat < 128 := by
    intro c hc
    obtain ⟨d, hd, rfl⟩ := List.mem_map.mp hc
    exact (toLower_ascii (htrim d hd)).1
  calc (slug cs).filter (· ≠ '-')
      = ((lower (trim cs)).filter isSlugPart).filter (! isSlugGap ·) := by
        rw [slug, filter_trimHyphens, filter_hyphenate]
        rfl
    _ = ((trim cs).map Char.toLower).filter Char.isAlphanum := by
        rw [lower_of_ascii htrim, filter_isSlugPart hlower]
    _ = (cs.filter Char.isAlphanum).map Char.toLower := by rw [filter_map_toLower htrim, filter_trim h]

theorem isSlug_slug (h : ∀ c ∈ cs, c.toNat < 128) : IsSlug (slug cs) where
  chars := by
    intro c hc
    by_cases hhyphen : c = '-'
    · exact .inr (.inr hhyphen)
    · have hletter : c ∈ (slug cs).filter (· ≠ '-') := List.mem_filter.mpr ⟨hc, by simpa using hhyphen⟩
      rw [filter_slug h] at hletter
      obtain ⟨d, hd, rfl⟩ := List.mem_map.mp hletter
      obtain ⟨hd, halnum⟩ := List.mem_filter.mp hd
      exact (isLower_or_isDigit_toLower (h d hd) halnum).imp_right .inl
  head := head?_trimHyphens _
  last := getLast?_trimHyphens _
  single := single_trimHyphens (single_hyphenate false _).1

/-! ## 5. Slugs of slugs -/

theorem IsSlugChar.lt (h : IsSlugChar c) : c.toNat < 128 := by
  rcases h with h | h | rfl
  · have hlast : c.val ≤ 'z'.val := of_decide_eq_true (Bool.and_eq_true_iff.mp h).2
    have hle : c.toNat ≤ 122 := UInt32.le_iff_toNat_le.mp hlast
    omega
  · have hle : c.toNat ≤ 57 := (Char.isDigit_iff_toNat.mp h).2
    omega
  · decide

/-- What a slug is made of goes through the first passes as it is, and is no separator but the hyphen. -/
theorem IsSlugChar.fixed (h : IsSlugChar c) :
    isBlank c = false ∧ c.toLower = c ∧ isSlugPart c = true ∧ (isSlugGap c = true → c = '-') :=
  forall_ascii (p := fun c => IsSlugChar c →
    isBlank c = false ∧ c.toLower = c ∧ isSlugPart c = true ∧ (isSlugGap c = true → c = '-')) (by decide) c h.lt h

theorem hyphenate_eq_self (hchars : ∀ c ∈ cs, isSlugGap c = true → c = '-') (hsingle : ¬ ['-', '-'] <:+: cs) :
    hyphenate false cs = cs ∧ ('-' ∉ cs.head? → hyphenate true cs = cs) := by
  induction cs with
  | nil => exact ⟨rfl, fun _ => rfl⟩
  | cons c cs ih =>
    obtain ⟨hc, hcs⟩ := List.forall_mem_cons.mp hchars
    rw [List.infix_cons_iff, not_or] at hsingle
    obtain ⟨hplain, hrun⟩ := ih hcs hsingle.2
    by_cases hgap : isSlugGap c = true
    · obtain rfl := hc hgap
      refine ⟨?_, fun hhead => absurd rfl hhead⟩
      rw [hyphenate, if_pos hgap, if_neg Bool.false_ne_true, hrun]
      intro hhead
      obtain ⟨tail, rfl⟩ := List.head?_eq_some_iff.mp hhead
      exact hsingle.1 ⟨tail, rfl⟩
    · rw [hyphenate, if_neg hgap, hyphenate, if_neg hgap, hplain]
      exact ⟨rfl, fun _ => rfl⟩

/-- A slug is its own slug. -/
theorem IsSlug.slug_eq_self (h : IsSlug cs) : slug cs = cs := by
  have htrim : trim cs = cs := trim_of_not_blank fun c hc => (h.chars c hc).fixed.1
  have hlower : lower cs = cs := by
    rw [lower_of_ascii fun c hc => (h.chars c hc).lt]
    exact (List.map_congr_left fun c hc => (h.chars c hc).fixed.2.1).trans (List.map_id cs)
  have hkept : cs.filter isSlugPart = cs := List.filter_eq_self.mpr fun c hc => (h.chars c hc).fixed.2.2.1
  have hhyphens : hyphenate false cs = cs :=
    (hyphenate_eq_self (fun c hc => (h.chars c hc).fixed.2.2.2) h.single).1
  have hends : trimHyphens cs = cs := by
    refine rdropWhile_dropWhile_eq_self (p := (· == '-')) (fun c hc => ?_) (fun c hc => ?_)
    · exact beq_eq_false_iff_ne.mpr fun hhyphen => h.head (hhyphen ▸ hc)
    · exact beq_eq_false_iff_ne.mpr fun hhyphen => h.last (hhyphen ▸ hc)
  show trimHyphens (hyphenate false ((lower (trim cs)).filter isSlugPart)) = cs
  rw [htrim, hlower, hkept, hhyphens, hends]

end Stencil.Text
