import Stencil.Text.Entity

/-!
Character references, there and back.

What is written for a character is that character, when it has no meaning in markup, or a reference that ends at its
semicolon and stands for it. In written text every ampersand begins such a reference, so reading takes up one written
character after the other, and none of them looks like markup.
-/

namespace Stencil.Text.Entity

variable {c : Char} {cs inside rest : List Char}

/-! ## 1. One reference -/

/-- The inside of a reference ends at the semicolon behind it. -/
theorem reference?_append (hinside : inside.all (fun d => d.isAlphanum || d == '#') = true)
    (hmeaning : meaning? inside = some c) (rest : List Char) :
    reference? (inside ++ ';' :: rest) = some (c, rest) := by
  have hall := List.all_eq_true.mp hinside
  have hdrop : (inside ++ ';' :: rest).dropWhile (fun d => d.isAlphanum || d == '#') = ';' :: rest := by
    rw [List.dropWhile_append_of_pos hall, List.dropWhile_cons_of_neg (by decide)]
  have htake : (inside ++ ';' :: rest).takeWhile (fun d => d.isAlphanum || d == '#') = inside := by
    rw [List.takeWhile_append_of_pos hall, List.takeWhile_cons_of_neg (by decide), List.append_nil]
  rw [reference?, hdrop, htake]
  show (meaning? inside).map (fun new => (new, rest)) = some (c, rest)
  rw [hmeaning, Option.map_some]

theorem unescape_reference (hinside : inside.all (fun d => d.isAlphanum || d == '#') = true)
    (hmeaning : meaning? inside = some c) (rest : List Char) :
    unescape ('&' :: (inside ++ ';' :: rest)) = c :: unescape rest := by
  rw [unescape, if_pos rfl]
  split
  · next new after hreference =>
    rw [reference?_append hinside hmeaning] at hreference
    cases hreference
    rfl
  · next hnone =>
    rw [reference?_append hinside hmeaning] at hnone
    cases hnone

theorem unescape_cons (hc : c ≠ '&') (rest : List Char) : unescape (c :: rest) = c :: unescape rest := by
  rw [unescape, if_neg hc]

/-! ## 2. What is written -/

/-- A character is written as it is, or by a reference that stands for it. -/
inductive Written (c : Char) : List Char → Prop
  | plain (hc : c ∉ ['&', '<', '>', '"', '\'', '/']) : Written c [c]
  | reference (inside : List Char) (hinside : inside.all (fun d => d.isAlphanum || d == '#') = true)
    (hmeaning : meaning? inside = some c) : Written c ('&' :: (inside ++ [';']))

theorem written_escapeChar (c : Char) : Written c (escapeChar c) := by
  rw [escapeChar]
  split
  · next hc => exact .reference ['a', 'm', 'p'] rfl (by rw [hc]; rfl)
  split
  · next hc => exact .reference ['l', 't'] rfl (by rw [hc]; rfl)
  split
  · next hc => exact .reference ['g', 't'] rfl (by rw [hc]; rfl)
  split
  · next hc => exact .reference ['q', 'u', 'o', 't'] rfl (by rw [hc]; rfl)
  split
  · next hc => exact .reference ['#', 'x', '2', '7'] rfl (by rw [hc]; rfl)
  split
  · next hc => exact .reference ['#', 'x', '2', 'F'] rfl (by rw [hc]; rfl)
  · next hamp hlt hgt hquot hapos hslash =>
    refine .plain ?_
    simp only [List.mem_cons, List.not_mem_nil, or_false, not_or]
    exact ⟨hamp, hlt, hgt, hquot, hapos, hslash⟩

theorem Written.unescape_append (h : Written c cs) (rest : List Char) : unescape (cs ++ rest) = c :: unescape rest := by
  cases h with
  | plain hc => exact unescape_cons (List.ne_of_not_mem_cons hc) rest
  | reference inside hinside hmeaning =>
    rw [List.cons_append, List.append_assoc, List.singleton_append]
    exact unescape_reference hinside hmeaning rest

/-- A character that has a meaning in markup is in no written text, unless references need it. -/
theorem Written.not_mem {d : Char} (hd : d ∈ ['<', '>', '"', '\'', '/']) (h : Written c cs) : d ∉ cs := by
  cases h with
  | plain hc =>
    rintro hmem
    rw [List.mem_singleton.mp hmem] at hd
    exact hc (List.mem_cons_of_mem _ hd)
  | reference inside hinside hmeaning =>
    intro hmem
    rcases List.mem_cons.mp hmem with rfl | hmem
    · exact absurd hd (by decide)
    · rcases List.mem_append.mp hmem with hmem | hmem
      · have hplain := List.all_eq_true.mp hinside d hmem
        simp only [List.mem_cons, List.not_mem_nil, or_false] at hd
        rcases hd with rfl | rfl | rfl | rfl | rfl <;> exact absurd hplain (by decide)
      · obtain rfl := List.mem_singleton.mp hmem
        exact absurd hd (by decide)

/-! ## 3. Whole texts -/

/-- Reading undoes writing. -/
theorem unescape_escape (cs : List Char) : unescape (escape cs) = cs := by
  induction cs with
  | nil => rw [escape, List.flatMap_nil, unescape]
  | cons c cs ih =>
    rw [escape, List.flatMap_cons, (written_escapeChar c).unescape_append]
    exact congrArg (c :: ·) ih

/-- There is nothing in written text that markup is made of. -/
theorem not_mem_escape {d : Char} (hd : d ∈ ['<', '>', '"', '\'', '/']) (cs : List Char) : d ∉ escape cs := by
  intro hmem
  obtain ⟨c, -, hc⟩ := List.mem_flatMap.mp hmem
  exact (written_escapeChar c).not_mem hd hc

end Stencil.Text.Entity
