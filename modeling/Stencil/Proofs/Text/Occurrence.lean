import Stencil.Text.Basic

/-!
Occurrences of one text in another.

What a search comes to is one way to put the text together again, from what stands before the occurrence, the
occurrence, and what stands behind it. Replacing goes along the text: at an occurrence it puts the new text in its
place and goes on behind it, everywhere else it keeps the character.
-/

namespace Stencil.Text

/-! ## 1. Searching -/

theorem eq_append_of_stripPrefix? {pat cs rest : List Char} (h : stripPrefix? pat cs = some rest) :
    cs = pat ++ rest := by
  induction pat generalizing cs with
  | nil =>
    cases h
    rfl
  | cons p ps ih =>
    cases cs with
    | nil => cases h
    | cons c cs =>
      rw [stripPrefix?] at h
      split at h
      · next hc => rw [hc, ih h, List.cons_append]
      · cases h

theorem eq_append_of_cutAt? {pat cs before after : List Char} (h : cutAt? pat cs = some (before, after)) :
    cs = before ++ pat ++ after := by
  induction cs generalizing before with
  | nil =>
    rw [cutAt?] at h
    split at h
    · next hpat =>
      cases h
      rw [List.isEmpty_iff.mp hpat]
      rfl
    · cases h
  | cons c cs ih =>
    rw [cutAt?] at h
    split at h
    · next rest hrest =>
      cases h
      rw [List.nil_append]
      exact eq_append_of_stripPrefix? hrest
    · obtain ⟨⟨before, after⟩, hcut, hpair⟩ := Option.map_eq_some_iff.mp h
      cases hpair
      rw [List.cons_append, List.cons_append, ih hcut]

theorem stripPrefix?_eq_none {pat cs : List Char} (h : ¬ pat <+: cs) : stripPrefix? pat cs = none := by
  cases hrest : stripPrefix? pat cs with
  | none => rfl
  | some rest => exact absurd ⟨rest, (eq_append_of_stripPrefix? hrest).symm⟩ h

/-- What does not occur in a text does not cut it. -/
theorem cutAt?_eq_none {pat cs : List Char} (hpat : pat ≠ []) (h : ¬ pat <:+: cs) : cutAt? pat cs = none := by
  induction cs with
  | nil => rw [cutAt?, if_neg (by simpa using hpat)]
  | cons c cs ih =>
    rw [List.infix_cons_iff, not_or] at h
    rw [cutAt?, ih h.2, stripPrefix?_eq_none h.1]
    rfl

theorem stripPrefix?_append (pat rest : List Char) : stripPrefix? pat (pat ++ rest) = some rest := by
  induction pat with
  | nil => rfl
  | cons p ps ih => rw [List.cons_append, stripPrefix?, if_pos rfl, ih]

theorem infix_of_cutAt?_eq_none {pat cs : List Char} (h : cutAt? pat cs = none) : ¬ pat <:+: cs := by
  induction cs with
  | nil =>
    rw [cutAt?] at h
    split at h
    · cases h
    · next hpat => simpa using hpat
  | cons c cs ih =>
    rw [cutAt?] at h
    split at h
    · cases h
    · next hnone =>
      rw [List.infix_cons_iff, not_or]
      refine ⟨?_, ih (Option.map_eq_none_iff.mp h)⟩
      rintro ⟨rest, hrest⟩
      rw [← hrest, stripPrefix?_append] at hnone
      cases hnone

/-- The cut is at the first occurrence: none begins in the text before it. -/
theorem not_infix_append_of_cutAt? {pat cs before after : List Char} (hpat : pat ≠ [])
    (h : cutAt? pat cs = some (before, after)) : ¬ pat <:+: before ++ pat.dropLast := by
  induction cs generalizing before with
  | nil =>
    rw [cutAt?, if_neg (by simpa using hpat)] at h
    cases h
  | cons c cs ih =>
    have hcs := eq_append_of_cutAt? h
    rw [cutAt?] at h
    split at h
    · cases h
      intro hinfix
      have hlength := hinfix.length_le
      have hpos := List.length_pos_iff.mpr hpat
      rw [List.nil_append, List.length_dropLast] at hlength
      omega
    · next hnone =>
      obtain ⟨⟨front, after⟩, hcut, hpair⟩ := Option.map_eq_some_iff.mp h
      cases hpair
      rw [List.cons_append, List.infix_cons_iff, not_or]
      refine ⟨?_, ih hcut⟩
      -- an occurrence at the start would have been the cut
      intro hprefix
      have hstart : pat <+: c :: cs := by
        rw [hcs]
        refine hprefix.trans ?_
        rw [← List.cons_append, List.append_assoc, List.prefix_append_right_inj]
        exact (List.dropLast_prefix pat).trans (List.prefix_append pat _)
      obtain ⟨rest, hrest⟩ := hstart
      rw [← hrest, stripPrefix?_append] at hnone
      cases hnone

/-- An occurrence before which none begins is the cut. -/
theorem cutAt?_append {pat before : List Char} (hpat : pat ≠ []) (h : ¬ pat <:+: before ++ pat.dropLast)
    (after : List Char) : cutAt? pat (before ++ pat ++ after) = some (before, after) := by
  induction before with
  | nil =>
    obtain ⟨p, ps, rfl⟩ := List.exists_cons_of_ne_nil hpat
    have hstrip := stripPrefix?_append (p :: ps) after
    rw [List.cons_append] at hstrip
    rw [List.nil_append, List.cons_append, cutAt?, hstrip]
  | cons c before ih =>
    rw [List.cons_append, List.infix_cons_iff, not_or] at h
    have hnone : stripPrefix? pat (c :: (before ++ pat ++ after)) = none := by
      have hfront : c :: (before ++ pat.dropLast) <+: c :: (before ++ pat ++ after) := by
        rw [List.cons_prefix_cons, List.append_assoc, List.prefix_append_right_inj]
        exact ⟨rfl, (List.dropLast_prefix pat).trans (List.prefix_append pat after)⟩
      have hlength : pat.length ≤ (c :: (before ++ pat.dropLast)).length := by
        have hpos := List.length_pos_iff.mpr hpat
        rw [List.length_cons, List.length_append, List.length_dropLast]
        omega
      exact stripPrefix?_eq_none fun hprefix => h.1 (List.prefix_of_prefix_length_le hprefix hfront hlength)
    rw [List.cons_append, List.cons_append, cutAt?, hnone, ih h.2]
    rfl

/-- The text before the cut has no occurrence in it. -/
theorem not_infix_of_cutAt? {pat cs before after : List Char} (hpat : pat ≠ [])
    (h : cutAt? pat cs = some (before, after)) : ¬ pat <:+: before :=
  fun hoccurs => not_infix_append_of_cutAt? hpat h (hoccurs.trans (List.prefix_append _ _).isInfix)

/-- A cut behind some text is a cut of what follows that text. -/
theorem cutAt?_of_append {pat front cs before after : List Char}
    (h : cutAt? pat (front ++ cs) = some (front ++ before, after)) : cutAt? pat cs = some (before, after) := by
  induction front with
  | nil => exact h
  | cons c front ih =>
    rw [List.cons_append, cutAt?] at h
    split at h
    · cases h
    · obtain ⟨⟨found, after⟩, hcut, hpair⟩ := Option.map_eq_some_iff.mp h
      cases hpair
      exact ih hcut

/-! ## 2. Replacing -/

theorem replaceAll_of_stripPrefix? {p c : Char} {ps new cs rest : List Char}
    (h : stripPrefix? (p :: ps) (c :: cs) = some rest) :
    replaceAll (p :: ps) new (c :: cs) = new ++ replaceAll (p :: ps) new rest := by
  rw [replaceAll]
  split
  · next hrest =>
    rw [h] at hrest
    cases hrest
    rfl
  · next hnone =>
    rw [h] at hnone
    cases hnone

theorem replaceAll_of_stripPrefix?_eq_none {p c : Char} {ps new cs : List Char}
    (h : stripPrefix? (p :: ps) (c :: cs) = none) :
    replaceAll (p :: ps) new (c :: cs) = c :: replaceAll (p :: ps) new cs := by
  rw [replaceAll]
  split
  · next hrest =>
    rw [h] at hrest
    cases hrest
  · rfl

end Stencil.Text
