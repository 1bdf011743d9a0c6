import Stencil.Text.Basic

/-!
Texts in pieces.

A text is split at the characters of some kind, and put together again with one of them between the pieces. Splitting
and joining are those of lists, and either undoes the other as long as no piece can be split.
-/

namespace Stencil.Text

variable {p : Char → Bool}

/-! ## 1. Splitting -/

theorem splitOn_eq_splitOnP (p : Char → Bool) (cs : List Char) : splitOn p cs = cs.splitOnP p := by
  induction cs with
  | nil => rfl
  | cons c cs ih =>
    rw [splitOn, ih, List.splitOnP_cons_eq_if_modifyHead]
    cases hpieces : cs.splitOnP p with
    | nil => exact absurd hpieces (List.splitOnP_ne_nil p cs)
    | cons piece pieces => rfl

/-- There is nothing left in a piece that the text was split at. -/
theorem eq_false_of_mem_splitOnP {cs piece : List Char} (hpiece : piece ∈ cs.splitOnP p) {c : Char}
    (hc : c ∈ piece) : p c = false := by
  induction cs generalizing piece with
  | nil =>
    cases List.mem_singleton.mp hpiece
    cases hc
  | cons d cs ih =>
    rw [List.splitOnP_cons_eq_if_modifyHead] at hpiece
    split at hpiece
    · rcases List.mem_cons.mp hpiece with rfl | hpiece
      · cases hc
      · exact ih hpiece hc
    · next hd =>
      cases hpieces : cs.splitOnP p with
      | nil => exact absurd hpieces (List.splitOnP_ne_nil p cs)
      | cons first pieces =>
        rw [hpieces, List.modifyHead_cons] at hpiece
        rcases List.mem_cons.mp hpiece with rfl | hpiece
        · rcases List.mem_cons.mp hc with rfl | hc
          · simpa using hd
          · exact ih (hpieces ▸ List.mem_cons_self) hc
        · exact ih (hpieces ▸ List.mem_cons_of_mem first hpiece) hc

/-- A text starts with its first piece, and what follows is split off. -/
theorem exists_eq_append_of_splitOnP {cs piece : List Char} {pieces : List (List Char)}
    (h : cs.splitOnP p = piece :: pieces) : ∃ tail, cs = piece ++ tail ∧ ∀ c ∈ tail.head?, p c = true := by
  induction cs generalizing piece pieces with
  | nil =>
    obtain ⟨rfl, -⟩ := List.cons.inj h
    exact ⟨[], rfl, fun c hc => by cases hc⟩
  | cons d cs ih =>
    rw [List.splitOnP_cons_eq_if_modifyHead] at h
    split at h
    · next hd =>
      obtain ⟨rfl, -⟩ := List.cons.inj h
      refine ⟨d :: cs, rfl, fun c hc => ?_⟩
      cases hc
      exact hd
    · cases hrest : cs.splitOnP p with
      | nil => exact absurd hrest (List.splitOnP_ne_nil p cs)
      | cons first others =>
        rw [hrest, List.modifyHead_cons] at h
        obtain ⟨rfl, -⟩ := List.cons.inj h
        obtain ⟨tail, rfl, htail⟩ := ih hrest
        exact ⟨tail, rfl, htail⟩

/-! ## 2. Putting together -/

theorem join_eq_intercalate (sep : List Char) (pieces : List (List Char)) : join sep pieces = sep.intercalate pieces := by
  induction pieces with
  | nil => rfl
  | cons piece pieces ih =>
    cases pieces with
    | nil => simp [join]
    | cons next pieces => rw [join, ih, List.intercalate_cons_cons]; exact List.cons_ne_nil _ _

/-- What is put together has nothing but the characters of its pieces and those between them. -/
theorem mem_of_mem_join {sep : List Char} {pieces : List (List Char)} {c : Char} (h : c ∈ join sep pieces) :
    c ∈ sep ∨ ∃ piece ∈ pieces, c ∈ piece := by
  induction pieces with
  | nil => exact absurd h List.not_mem_nil
  | cons piece pieces ih =>
    cases pieces with
    | nil => exact .inr ⟨piece, List.mem_cons_self, h⟩
    | cons next pieces =>
      rw [join, List.mem_append, List.mem_append] at h
      · rcases h with (h | h) | h
        · exact .inr ⟨piece, List.mem_cons_self, h⟩
        · exact .inl h
        · exact (ih h).imp_right fun ⟨p, hp, hc⟩ => ⟨p, List.mem_cons_of_mem piece hp, hc⟩
      · exact List.cons_ne_nil _ _

theorem mem_join_of_mem (sep : List Char) {pieces : List (List Char)} {piece : List Char} {c : Char}
    (hpiece : piece ∈ pieces) (hc : c ∈ piece) : c ∈ join sep pieces := by
  induction pieces with
  | nil => exact absurd hpiece List.not_mem_nil
  | cons first pieces ih =>
    cases pieces with
    | nil => rwa [List.mem_singleton.mp hpiece] at hc
    | cons next pieces =>
      rw [join, List.mem_append]
      · rcases List.mem_cons.mp hpiece with rfl | hpiece
        · exact .inl (List.mem_append_left sep hc)
        · exact .inr (ih hpiece)
      · exact List.cons_ne_nil _ _

/-- The pieces of a text make the text again. -/
theorem join_splitOn (sep : Char) (cs : List Char) : join [sep] (splitOn (· == sep) cs) = cs := by
  rw [join_eq_intercalate, splitOn_eq_splitOnP, ← List.splitOn_eq_splitOnP, List.intercalate_splitOn]

theorem mem_of_mem_splitOn {sep c : Char} {cs piece : List Char} (hpiece : piece ∈ splitOn (· == sep) cs)
    (hc : c ∈ piece) : c ∈ cs := by
  rw [← join_splitOn sep cs]
  exact mem_join_of_mem [sep] hpiece hc

/-- What was put together from pieces is split into these pieces, if no piece can be split. -/
theorem splitOnP_intercalate {sep : Char} (hsep : p sep = true) {pieces : List (List Char)} (hsome : pieces ≠ [])
    (hwhole : ∀ piece ∈ pieces, ∀ c ∈ piece, p c = false) : ([sep].intercalate pieces).splitOnP p = pieces := by
  induction pieces with
  | nil => exact absurd rfl hsome
  | cons piece pieces ih =>
    obtain ⟨hpiece, hpieces⟩ := List.forall_mem_cons.mp hwhole
    cases pieces with
    | nil => rw [List.intercalate_singleton, List.splitOnP_eq_singleton hpiece]
    | cons next pieces =>
      rw [List.intercalate_cons_cons, List.append_assoc, List.singleton_append,
        List.splitOnP_append_cons_of_forall_mem hpiece sep hsep, ih (List.cons_ne_nil _ _) hpieces]

end Stencil.Text
