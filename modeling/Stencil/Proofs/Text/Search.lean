import Stencil.Text.Search

/-!
Patterns with nothing to be found.

A pattern whose first part is one certain character matches at no place where another character follows. So a text
without that character is left as it is, whatever the rest of the pattern asks for. That the survey spells the text it
was made from is all that has to be known about it.
-/

namespace Stencil.Text.Search

/-! ## 1. What follows a place -/

/-- The characters behind a place. -/
def Place.following : Place → List Char
  | .atEnd .. => []
  | .ahead _ _ _ next rest => next :: rest.following

theorem Place.following_learn (outcome : Option Outcome) (place : Place) :
    (place.learn outcome).following = place.following := by
  cases place <;> rfl

/-- Knowing more about a place changes nothing behind it. -/
theorem Plan.following_know (plan : Plan) (place : Place) : (plan.know place).following = place.following := by
  rw [know]
  induction plan.repetitions generalizing place with
  | nil => rfl
  | cons r repetitions ih => rw [List.foldl_cons, ih, Place.following_learn]

/-- A survey spells the text. -/
theorem Plan.following_survey (plan : Plan) (cs : List Char) : (plan.survey cs).following = cs := by
  let step (pair : Char × Option Char) (rest : Place) : Place :=
    plan.know (.ahead pair.2 (rest.left + 1) [] pair.1 rest)
  have hfold : ∀ (pairs : List (Char × Option Char)) (last : Place), last.following = [] →
      (pairs.foldr step last).following = pairs.map Prod.fst := by
    intro pairs last hlast
    induction pairs with
    | nil => exact hlast
    | cons pair pairs ih => rw [List.foldr_cons, following_know, Place.following, ih, List.map_cons]
  show ((cs.zip (none :: cs.map some)).foldr step (plan.know (.atEnd cs.getLast? []))).following = cs
  rw [hfold _ _ (following_know plan _), List.map_fst_zip]
  rw [List.length_cons, List.length_map]
  exact Nat.le_succ _

/-! ## 2. Patterns that begin with a character -/

/-- The first part of the pattern is the character. -/
inductive BeginsWith (c : Char) : Search → Prop
  | exactly : BeginsWith c (.exactly c)
  | both {first second : Search} (hfirst : BeginsWith c first) : BeginsWith c (.both first second)

variable {c : Char} {p : Search} {cs : List Char}

/-- Where another character follows there is no match. -/
theorem BeginsWith.test_eq_none (h : BeginsWith c p) (plan : Plan) {place : Place} (hplace : c ∉ place.following.head?) :
    (p.before plan).test place = none := by
  induction h generalizing plan with
  | exactly =>
    cases place with
    | atEnd before known => rfl
    | ahead before left known next rest =>
      have hnext : (next == c) = false := by
        rw [beq_eq_false_iff_ne]
        rintro rfl
        exact hplace rfl
      show (if (next == c) = true then plan.test rest else none) = none
      rw [if_neg (by simp [hnext])]
  | both hfirst ih => exact ih _

theorem replaceFrom_eq {test : Place → Option Outcome} {new : Match → List Char} {place : Place}
    (hplace : place.following = cs) (htest : ∀ place, c ∉ place.following.head? → test place = none) (hc : c ∉ cs)
    (written : List Char) : replaceFrom test new 0 written cs place = written.reverse ++ cs := by
  induction cs generalizing written place with
  | nil =>
    rw [replaceFrom, List.append_nil]
    nofun
  | cons d cs ih =>
    cases place with
    | atEnd before known => cases hplace
    | ahead before left known next rest =>
      obtain ⟨rfl, hrest⟩ := List.cons.inj hplace
      obtain ⟨hd, hcs⟩ := List.ne_and_not_mem_of_not_mem_cons hc
      have hnone : test (.ahead before left known next rest) = none := by
        refine htest _ fun hmem => hd ?_
        exact (Option.some.inj hmem).symm
      rw [replaceFrom, hnone]
      simp only
      rw [ih hrest hcs, List.reverse_cons, List.append_assoc, List.singleton_append]

/-- A pattern leaves a text alone in which the character it begins with does not occur. -/
theorem replace_eq_self (h : BeginsWith c p) (hc : c ∉ cs) (new : Match → List Char) : p.replace new cs = cs := by
  have htest : ∀ place : Place, c ∉ place.following.head? → p.plan.test place = none := by
    intro place hplace
    exact h.test_eq_none _ hplace
  exact replaceFrom_eq (p.plan.following_survey cs) htest hc []

end Stencil.Text.Search
