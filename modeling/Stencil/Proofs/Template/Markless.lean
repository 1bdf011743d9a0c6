import Stencil.Proofs.Text.Occurrence
import Stencil.Template.Comment

/-!
Sources without comments.

A source in which no mark of a comment stands is left as it is when comments are taken out. Whether a mark stands in
a source that was put together from pieces is a matter of the pieces and of what meets between two of them
(`Markless.append`), and backslashes that are put into a text make no mark in it (`Spread.markless`).
-/

namespace Stencil

namespace Template

/-- No mark of a comment stands in the text. -/
def Markless (cs : List Char) : Prop := ¬ Comment.mark <:+: cs

instance (cs : List Char) : Decidable (Markless cs) := inferInstanceAs (Decidable (¬ Comment.mark <:+: cs))

theorem Comment.strip_eq_self {cs : List Char} (h : Markless cs) : Comment.strip cs = cs := by
  have hcut : Text.cutAt? mark cs = none := Text.cutAt?_eq_none (List.cons_ne_nil _ _) h
  rw [Comment.strip]
  split
  · rfl
  · next before after hsome =>
    rw [hcut] at hsome
    cases hsome

/-! ## 1. Pieces -/

theorem markless_nil : Markless [] := by
  intro h
  cases List.infix_nil.mp h

theorem markless_cons {c : Char} {cs : List Char} :
    Markless (c :: cs) ↔ ¬ Comment.mark <+: c :: cs ∧ Markless cs := by
  rw [Markless, List.infix_cons_iff, not_or]
  rfl

theorem mark_prefix_iff {cs : List Char} : Comment.mark <+: cs ↔ ∃ rest, cs = '{' :: '{' :: '!' :: rest := by
  constructor
  · rintro ⟨rest, rfl⟩
    exact ⟨rest, rfl⟩
  · rintro ⟨rest, rfl⟩
    exact ⟨rest, rfl⟩

theorem Markless.cons {c : Char} {cs : List Char} (hc : c ≠ '{') (h : Markless cs) : Markless (c :: cs) := by
  refine markless_cons.mpr ⟨fun hmark => ?_, h⟩
  obtain ⟨rest, hrest⟩ := mark_prefix_iff.mp hmark
  exact hc (List.cons.inj hrest).1

theorem markless_of_forall {cs : List Char} (h : ∀ c ∈ cs, c ≠ '{') : Markless cs := by
  induction cs with
  | nil => exact markless_nil
  | cons c cs ih =>
    rw [List.forall_mem_cons] at h
    exact (ih h.2).cons h.1

/-- Two pieces can meet without making a mark: the first one does not end in a brace, or the second one does not
start with what could follow one. -/
def Apart (cs ds : List Char) : Prop := (∀ c ∈ cs.getLast?, c ≠ '{') ∨ ∀ d ∈ ds.head?, d ≠ '{' ∧ d ≠ '!'

theorem Apart.tail {c : Char} {cs ds : List Char} (h : Apart (c :: cs) ds) : Apart cs ds := by
  refine h.imp_left fun hlast d hd => hlast d ?_
  rw [List.getLast?_cons, Option.mem_def.mp hd]
  rfl

theorem Markless.append {cs ds : List Char} (hcs : Markless cs) (hds : Markless ds) (hapart : Apart cs ds) :
    Markless (cs ++ ds) := by
  induction cs with
  | nil => exact hds
  | cons c cs ih =>
    rw [markless_cons] at hcs
    rw [List.cons_append, markless_cons]
    refine ⟨fun hmark => ?_, ih hcs.2 hapart.tail⟩
    obtain ⟨rest, hrest⟩ := mark_prefix_iff.mp hmark
    -- the mark starts in the first piece, and would have to go on in the second one
    match cs, hrest with
    | [], hrest =>
      obtain ⟨rfl, rfl⟩ := List.cons.inj hrest
      rcases hapart with hlast | hhead
      · exact hlast '{' rfl rfl
      · exact (hhead '{' rfl).1 rfl
    | [d], hrest =>
      obtain ⟨rfl, hsecond⟩ := List.cons.inj hrest
      obtain ⟨rfl, rfl⟩ := List.cons.inj hsecond
      rcases hapart with hlast | hhead
      · exact hlast '{' rfl rfl
      · exact (hhead '!' rfl).2 rfl
    | d :: e :: cs, hrest =>
      obtain ⟨rfl, hsecond⟩ := List.cons.inj hrest
      obtain ⟨rfl, hthird⟩ := List.cons.inj hsecond
      obtain ⟨rfl, -⟩ := List.cons.inj hthird
      exact hcs.1 (mark_prefix_iff.mpr ⟨cs, rfl⟩)

/-- A piece of a source: no mark of a comment stands in it or begins at its end. -/
structure Piece (cs : List Char) : Prop where
  markless : Markless cs
  closed : ∀ c ∈ cs.getLast?, c ≠ '{'

theorem Piece.append {cs ds : List Char} (hcs : Piece cs) (hds : Piece ds) : Piece (cs ++ ds) where
  markless := hcs.markless.append hds.markless (.inl hcs.closed)
  closed c hc := by
    rw [List.getLast?_append, Option.mem_def, Option.or_eq_some_iff] at hc
    rcases hc with hc | ⟨-, hc⟩
    · exact hds.closed c hc
    · exact hcs.closed c hc

theorem piece_of_forall {cs : List Char} (h : ∀ c ∈ cs, c ≠ '{') : Piece cs where
  markless := markless_of_forall h
  closed c hc := h c (List.mem_of_getLast? hc)

/-! ## 2. Backslashes -/

/-- The second text is the first one with some more backslashes in it. -/
inductive Spread : List Char → List Char → Prop
  | nil : Spread [] []
  | keep (c : Char) {cs ds} (others : Spread cs ds) : Spread (c :: cs) (c :: ds)
  | backslash {cs ds} (others : Spread cs ds) : Spread cs ('\\' :: ds)

theorem Spread.eq_cons {cs ds : List Char} {d : Char} (h : Spread cs (d :: ds)) (hd : d ≠ '\\') :
    ∃ tail, cs = d :: tail ∧ Spread tail ds := by
  cases h with
  | keep c others => exact ⟨_, rfl, others⟩
  | backslash others => exact absurd rfl hd

/-- Text without backslashes that stands in the second text stands in the first one. -/
theorem Spread.occurs {cs ds pat : List Char} (hpat : '\\' ∉ pat) (h : Spread cs ds) (hoccurs : pat <:+: ds) :
    pat <:+: cs := by
  have hfront {pat cs ds : List Char} (hpat : '\\' ∉ pat) (h : Spread cs ds) (hbegins : pat <+: ds) : pat <+: cs := by
    induction pat generalizing cs ds with
    | nil => exact List.nil_prefix
    | cons p pat ih =>
      rw [List.mem_cons, not_or] at hpat
      obtain ⟨rest, rfl⟩ := hbegins
      obtain ⟨tail, rfl, htail⟩ := h.eq_cons (Ne.symm hpat.1)
      exact List.cons_prefix_cons.mpr ⟨rfl, ih hpat.2 htail (List.prefix_append pat rest)⟩
  induction h with
  | nil => exact hoccurs
  | keep c others ih =>
    rcases List.infix_cons_iff.mp hoccurs with hstart | hlater
    · exact (hfront hpat (.keep c others) hstart).isInfix
    · exact (ih hlater).trans (List.suffix_cons c _).isInfix
  | backslash others ih =>
    rcases List.infix_cons_iff.mp hoccurs with hstart | hlater
    · exact (hfront hpat (.backslash others) hstart).isInfix
    · exact ih hlater

theorem Spread.markless {cs ds : List Char} (h : Spread cs ds) (hcs : Markless cs) : Markless ds :=
  mt (h.occurs (by decide)) hcs

end Template

end Stencil
