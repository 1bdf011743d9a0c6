import Mathlib.Data.List.DropRight
import Mathlib.Data.List.TakeWhile
import Stencil.Text.Blank

/-!
The ends of a text.

Characters of one kind are dropped from the front of a text, from its back, or from both. What is dropped is nothing
but such characters, what is left neither starts nor ends with one, and a text that neither starts nor ends with one is
left as it is. Trimming is that for blanks.
-/

namespace Stencil.Text

variable {p q : Char → Bool} {cs : List Char}

/-! ## 1. One end -/

theorem exists_eq_append_dropWhile (p : Char → Bool) (cs : List Char) :
    ∃ front, cs = front ++ cs.dropWhile p ∧ ∀ c ∈ front, p c = true :=
  ⟨cs.takeWhile p, List.takeWhile_append_dropWhile.symm, fun _ hc => List.mem_takeWhile_imp hc⟩

theorem exists_eq_rdropWhile_append (p : Char → Bool) (cs : List Char) :
    ∃ back, cs = cs.rdropWhile p ++ back ∧ ∀ c ∈ back, p c = true :=
  ⟨cs.rtakeWhile p, List.rdropWhile_append_rtakeWhile.symm, fun _ hc => List.mem_rtakeWhile_imp hc⟩

theorem head?_dropWhile (p : Char → Bool) (cs : List Char) : ∀ c ∈ (cs.dropWhile p).head?, p c = false := by
  intro c hc
  have hnot := List.head?_dropWhile_not p cs
  rw [Option.mem_def.mp hc] at hnot
  simpa using hnot

theorem getLast?_rdropWhile (p : Char → Bool) (cs : List Char) : ∀ c ∈ (cs.rdropWhile p).getLast?, p c = false := by
  rw [List.rdropWhile, List.getLast?_reverse]
  exact head?_dropWhile p cs.reverse

theorem dropWhile_eq_self (h : ∀ c ∈ cs.head?, p c = false) : cs.dropWhile p = cs := by
  cases cs with
  | nil => rfl
  | cons c cs => rw [List.dropWhile_cons, if_neg (by simp [h c rfl])]

theorem rdropWhile_eq_self (h : ∀ c ∈ cs.getLast?, p c = false) : cs.rdropWhile p = cs := by
  rw [← List.head?_reverse] at h
  rw [List.rdropWhile, dropWhile_eq_self h, List.reverse_reverse]

/-! ## 2. Both ends -/

/-- What goes from the back leaves the first character. -/
theorem head?_rdropWhile_dropWhile (p : Char → Bool) (cs : List Char) :
    ∀ c ∈ ((cs.dropWhile p).rdropWhile p).head?, p c = false := by
  intro c hc
  obtain ⟨back, hcs, -⟩ := exists_eq_rdropWhile_append p (cs.dropWhile p)
  refine head?_dropWhile p cs c ?_
  show (cs.dropWhile p).head? = some c
  rw [hcs, List.head?_append]
  exact Option.or_eq_some_iff.mpr (.inl hc)

theorem rdropWhile_dropWhile_within (p : Char → Bool) (cs : List Char) : (cs.dropWhile p).rdropWhile p <:+: cs :=
  (List.rdropWhile_prefix p _).isInfix.trans (List.dropWhile_suffix p).isInfix

theorem rdropWhile_dropWhile_eq_self (hhead : ∀ c ∈ cs.head?, p c = false) (hlast : ∀ c ∈ cs.getLast?, p c = false) :
    (cs.dropWhile p).rdropWhile p = cs := by
  rw [dropWhile_eq_self hhead, rdropWhile_eq_self hlast]

/-- Characters of another kind are all there. -/
theorem filter_rdropWhile_dropWhile (h : ∀ c ∈ cs, p c = true → q c = false) :
    ((cs.dropWhile p).rdropWhile p).filter q = cs.filter q := by
  obtain ⟨front, hfront, hfronts⟩ := exists_eq_append_dropWhile p cs
  obtain ⟨back, hback, hbacks⟩ := exists_eq_rdropWhile_append p (cs.dropWhile p)
  have hnone {dropped : List Char} (hdropped : ∀ c ∈ dropped, p c = true) (hin : dropped ⊆ cs) :
      dropped.filter q = [] :=
    List.filter_eq_nil_iff.mpr fun c hc => by simp [h c (hin hc) (hdropped c hc)]
  have hfrontIn : front ⊆ cs := fun c hc => hfront ▸ List.mem_append_left _ hc
  have hbackIn : back ⊆ cs := fun c hc => hfront ▸ List.mem_append_right front (hback ▸ List.mem_append_right _ hc)
  conv_rhs => rw [hfront, hback, List.filter_append, List.filter_append, hnone hfronts hfrontIn, hnone hbacks hbackIn,
    List.append_nil, List.nil_append]

/-! ## 3. Trimming -/

theorem exists_eq_trimEnd_append (cs : List Char) :
    ∃ blanks, cs = trimEnd cs ++ blanks ∧ ∀ c ∈ blanks, isBlank c = true :=
  exists_eq_rdropWhile_append isBlank cs

theorem exists_eq_append_trimStart (cs : List Char) :
    ∃ blanks, cs = blanks ++ trimStart cs ∧ ∀ c ∈ blanks, isBlank c = true :=
  exists_eq_append_dropWhile isBlank cs

theorem getLast?_trimEnd (cs : List Char) : ∀ c ∈ (trimEnd cs).getLast?, isBlank c = false :=
  getLast?_rdropWhile isBlank cs

theorem trimEnd_eq_self (h : ∀ c ∈ cs.getLast?, isBlank c = false) : trimEnd cs = cs := rdropWhile_eq_self h

theorem trimEnd_begins (cs : List Char) : trimEnd cs <+: cs := List.rdropWhile_prefix isBlank cs

theorem trim_within (cs : List Char) : trim cs <:+: cs := rdropWhile_dropWhile_within isBlank cs

theorem head?_trim (cs : List Char) : ∀ c ∈ (trim cs).head?, isBlank c = false :=
  head?_rdropWhile_dropWhile isBlank cs

/-- Nothing is trimmed off a text with no blanks at its ends. -/
theorem trim_of_solid_ends (hhead : ∀ c ∈ cs.head?, isBlank c = false) (hlast : ∀ c ∈ cs.getLast?, isBlank c = false) :
    trim cs = cs :=
  rdropWhile_dropWhile_eq_self hhead hlast

theorem trim_of_not_blank (h : ∀ c ∈ cs, isBlank c = false) : trim cs = cs :=
  trim_of_solid_ends (fun c hc => h c (List.mem_of_mem_head? hc)) fun c hc => h c (List.mem_of_mem_getLast? hc)

/-- Only of blanks nothing is left. -/
theorem trim_eq_nil : trim cs = [] ↔ ∀ c ∈ cs, isBlank c = true := by
  constructor
  · intro h
    obtain ⟨front, hfront, hfronts⟩ := exists_eq_append_trimStart cs
    obtain ⟨back, hback, hbacks⟩ := exists_eq_trimEnd_append (trimStart cs)
    have htrim : trimEnd (trimStart cs) = [] := h
    rw [hfront, hback, htrim, List.nil_append]
    exact List.forall_mem_append.mpr ⟨hfronts, hbacks⟩
  · intro h
    cases htrim : trim cs with
    | nil => rfl
    | cons c rest =>
      have hblank : isBlank c = true := h c ((trim_within cs).subset (htrim ▸ List.mem_cons_self))
      have hnot : isBlank c = false := head?_trim cs c (by rw [htrim]; rfl)
      exact absurd hblank (by rw [hnot]; decide)

end Stencil.Text
