import Mathlib.Data.List.Forall2
import Stencil.Http.Language
import Stencil.Proofs.Number.Order
import Stencil.Proofs.Text.Occurrence
import Stencil.Proofs.Text.Splitting

/-!
The preferred language as a maximum.

A header states a language and a weight in each of its entries. The language that is taken has the greatest weight of
those above zero, and is the first that has it (`Greatest`). One thing stands in the way of saying no more than that. A
weight may be written that is not a number. It is not zero or below, so its entry counts, and nothing is greater, so
once it is the best there is it stays. Where no such weight comes before all eligible ones, it makes no difference.
-/

namespace Stencil.Http

open Text Number

/-! ## 1. What a header states -/

/-- What the parameters of an entry have for a weight. -/
inductive Weighs (parameters : List (List Char)) : Float32 → Prop
  /-- The full weight, without a parameter for it. -/
  | unstated (absent : ∀ parameter ∈ parameters, ¬ "q=".toList <+: parameter) : Weighs parameters 1
  /-- What the first parameter for it is read as, or the full weight when that cannot be read. -/
  | stated {before text after} (split : parameters = before ++ ("q=".toList ++ text) :: after)
      (first : ∀ parameter ∈ before, ¬ "q=".toList <+: parameter) :
      Weighs parameters ((readFloat32? (trim text)).getD 1)

theorem weighs_weightOf (parameters : List (List Char)) : Weighs parameters (Preference.weightOf parameters) := by
  have hunstated {parameter} (hnone : stripPrefix? "q=".toList parameter = none) : ¬ "q=".toList <+: parameter := by
    rintro ⟨text, rfl⟩
    rw [stripPrefix?_append] at hnone
    cases hnone
  rw [Preference.weightOf]
  cases hfound : parameters.findSome? (stripPrefix? "q=".toList) with
  | none => exact .unstated fun parameter hparameter => hunstated (List.findSome?_eq_none_iff.mp hfound _ hparameter)
  | some text =>
    obtain ⟨before, parameter, after, rfl, hstrip, hbefore⟩ := List.findSome?_eq_some_iff.mp hfound
    obtain rfl := eq_append_of_stripPrefix? hstrip
    exact .stated rfl fun parameter hparameter => hunstated (hbefore parameter hparameter)

namespace Preference

/-- An entry states a language, up to its first semicolon, and the weight that the rest of it has. -/
def StatedBy (p : Preference) (entry : List Char) : Prop :=
  ∃ tag parameters, entry.splitOnP (· == ';') = tag :: parameters ∧ p.tag = .ofList (trim tag) ∧
    Weighs (parameters.map trim) p.weight

/-- The preference is for a language. -/
def Names (p : Preference) : Prop := p.tag ≠ "" ∧ p.tag ≠ "*"

/-- The preference is for a language, and its weight is above zero. -/
structure Eligible (p : Preference) : Prop where
  names : p.Names
  positive : 0 < p.weight

/-- The preference is for a language, and its weight is not zero or below. -/
def Counts (p : Preference) : Prop := p.Names ∧ ¬ p.weight ≤ 0

instance : DecidablePred Counts := fun p =>
  inferInstanceAs (Decidable ((p.tag ≠ "" ∧ p.tag ≠ "*") ∧ ¬ p.weight ≤ 0))

theorem counts_iff (p : Preference) : p.Counts ↔ p.Eligible ∨ p.Names ∧ p.weight.isNaN = true := by
  have hzero : (0 : Float32).isNaN = false := by decide
  by_cases hnan : p.weight.isNaN = true
  · have hle : ¬ p.weight ≤ 0 := fun hle => Bool.noConfusion (hnan.symm.trans (single_isNaN_of_le hle).1)
    exact ⟨fun h => .inr ⟨h.1, hnan⟩, fun h => ⟨h.elim (·.names) (·.1), hle⟩⟩
  · have hpositive : ¬ p.weight ≤ 0 ↔ 0 < p.weight := by
      rw [← single_not_lt_iff hzero (Bool.not_eq_true _ ▸ hnan), not_not]
    rw [Counts, hpositive]
    exact ⟨fun h => .inl ⟨h.1, h.2⟩, fun h => (h.resolve_right fun hnan' => hnan hnan'.2).rec fun h₁ h₂ => ⟨h₁, h₂⟩⟩

theorem names_ofList_iff (cs : List Char) (weight : Float32) :
    (Preference.mk (.ofList cs) weight).Names ↔ cs ≠ [] ∧ cs ≠ ['*'] := by
  have hempty : String.ofList cs = "" ↔ cs = [] := @String.ofList_inj cs []
  have hstar : String.ofList cs = "*" ↔ cs = ['*'] := @String.ofList_inj cs ['*']
  exact and_congr (not_congr hempty) (not_congr hstar)

/-- An entry states a preference, and is read as that preference if it counts. -/
theorem exists_statedBy (entry : List Char) :
    ∃ p : Preference, p.StatedBy entry ∧ read? entry = if p.Counts then some p else none := by
  obtain ⟨tag, parameters, hsplit⟩ := List.exists_cons_of_ne_nil (List.splitOnP_ne_nil (· == ';') entry)
  refine ⟨⟨.ofList (trim tag), weightOf (parameters.map trim)⟩, ⟨tag, parameters, hsplit, rfl, weighs_weightOf _⟩, ?_⟩
  rw [read?, splitOn_eq_splitOnP, hsplit, List.map_cons]
  simp only [Counts, names_ofList_iff]
  by_cases h : (trim tag ≠ [] ∧ trim tag ≠ ['*']) ∧ ¬ weightOf (parameters.map trim) ≤ 0
  · rw [if_pos h, if_neg (by simpa [and_assoc] using h)]
  · rw [if_neg h]
    rw [not_and_or, not_and_or, not_not, not_not, not_not] at h
    rw [if_pos (by simpa using h)]

/-- All entries of a header state preferences, and those are read that count. -/
theorem exists_forall₂_statedBy (entries : List (List Char)) :
    ∃ preferences, List.Forall₂ (fun entry p => StatedBy p entry) entries preferences ∧
      entries.filterMap read? = preferences.filter (·.Counts) := by
  induction entries with
  | nil => exact ⟨[], .nil, rfl⟩
  | cons entry entries ih =>
    obtain ⟨preferences, hstated, hread⟩ := ih
    obtain ⟨p, hp, hentry⟩ := exists_statedBy entry
    refine ⟨p :: preferences, .cons hp hstated, ?_⟩
    rw [List.filterMap_cons, hentry]
    by_cases hcounts : p.Counts
    · simp [hcounts, hread]
    · simp [hcounts, hread]

/-! ## 3. The best of several -/

variable {preferences : List Preference} {p q best : Preference}

/-- The first of the greatest. What comes before it weighs less, unless its weight is no number, and nothing behind it
weighs more. -/
def Greatest (preferences : List Preference) (p : Preference) : Prop :=
  ∃ before after, preferences = before ++ p :: after ∧
    (∀ q ∈ before, q.weight.isNaN = false → q.weight < p.weight) ∧ ∀ q ∈ after, ¬ p.weight < q.weight

theorem Greatest.not_lt (h : Greatest preferences p) (hnan : p.weight.isNaN = false) (hq : q ∈ preferences) :
    ¬ p.weight < q.weight := by
  obtain ⟨before, after, rfl, hbefore, hafter⟩ := h
  rcases List.mem_append.mp hq with hq | hq
  · intro hlt
    have hback := hbefore q hq (single_isNaN_of_lt hlt).2
    exact single_lt_irrefl _ (single_lt_of_lt_of_le hlt (single_le_of_lt hback))
  · rcases List.mem_cons.mp hq with rfl | hq
    · exact single_lt_irrefl _
    · exact hafter q hq

theorem Greatest.cons (h : Greatest preferences p) (hq : q.weight.isNaN = false → q.weight < p.weight) :
    Greatest (q :: preferences) p := by
  obtain ⟨before, after, rfl, hbefore, hafter⟩ := h
  exact ⟨q :: before, after, rfl, List.forall_mem_cons.mpr ⟨hq, hbefore⟩, hafter⟩

/-- What weighs no more than the first can be put behind it. -/
theorem Greatest.insert (h : Greatest (best :: preferences) p) (hbest : best.weight.isNaN = false)
    (hq : ¬ best.weight < q.weight) : Greatest (best :: q :: preferences) p := by
  obtain ⟨before, after, hsplit, hbefore, hafter⟩ := h
  rcases List.cons_eq_append_iff.mp hsplit with ⟨rfl, hfirst⟩ | ⟨before, rfl, rfl⟩
  · obtain ⟨rfl, rfl⟩ := List.cons.inj hfirst
    exact ⟨[], q :: _, rfl, hbefore, List.forall_mem_cons.mpr ⟨hq, hafter⟩⟩
  · have hlt := hbefore best List.mem_cons_self hbest
    refine ⟨best :: q :: before, after, rfl, ?_, hafter⟩
    obtain ⟨-, hbefore⟩ := List.forall_mem_cons.mp hbefore
    refine List.forall_mem_cons.mpr ⟨fun _ => hlt, List.forall_mem_cons.mpr ⟨fun hnan => ?_, hbefore⟩⟩
    exact single_lt_of_le_of_lt ((single_not_lt_iff hbest hnan).mp hq) hlt

/-- The best of several is the first of the greatest, if the first of them has a number for a weight. -/
theorem foldl_better_of_number (hbest : best.weight.isNaN = false) (preferences : List Preference) :
    ∃ p, preferences.foldl better (some best) = some p ∧ p.weight.isNaN = false ∧ Greatest (best :: preferences) p := by
  induction preferences generalizing best with
  | nil => exact ⟨best, rfl, hbest, [], [], rfl, nofun, nofun⟩
  | cons q preferences ih =>
    rw [List.foldl_cons, better]
    split
    · next hlt =>
      obtain ⟨p, hfold, hp, hgreatest⟩ := ih (single_isNaN_of_lt hlt).2
      refine ⟨p, hfold, hp, hgreatest.cons fun _ => single_lt_of_lt_of_le hlt ?_⟩
      exact (single_not_lt_iff hp (single_isNaN_of_lt hlt).2).mp (hgreatest.not_lt hp List.mem_cons_self)
    · next hlt =>
      obtain ⟨p, hfold, hp, hgreatest⟩ := ih hbest
      exact ⟨p, hfold, hp, hgreatest.insert hbest hlt⟩

/-- A weight that is not a number is never beaten. -/
theorem foldl_better_of_nan (hbest : best.weight.isNaN = true) (preferences : List Preference) :
    preferences.foldl better (some best) = some best := by
  induction preferences with
  | nil => rfl
  | cons q preferences ih =>
    have hlt : ¬ best.weight < q.weight := fun hlt => Bool.noConfusion (hbest.symm.trans (single_isNaN_of_lt hlt).1)
    rw [List.foldl_cons, better, if_neg hlt, ih]

/-! ## 4. The best of what is stated -/

/-- The best of those that count. -/
def best? (preferences : List Preference) : Option Preference := (preferences.filter (·.Counts)).foldl better none

/-- The first preference that counts has a weight that is not a number. -/
def Spoils (preferences : List Preference) (p : Preference) : Prop :=
  ∃ before after, preferences = before ++ p :: after ∧ p.Names ∧ p.weight.isNaN = true ∧ ∀ q ∈ before, ¬ q.Counts

/-- The first of the greatest among the eligible ones. -/
def Preferred (preferences : List Preference) (p : Preference) : Prop :=
  ∃ before after, preferences = before ++ p :: after ∧ p.Eligible ∧
    (∀ q ∈ before, q.Eligible → q.weight < p.weight) ∧ ∀ q ∈ after, q.Eligible → q.weight ≤ p.weight

theorem Eligible.isNaN (h : p.Eligible) : p.weight.isNaN = false := (single_isNaN_of_lt h.positive).2

theorem Eligible.counts (h : p.Eligible) : p.Counts := (counts_iff p).mpr (.inl h)

theorem eligible_of_counts (h : p.Counts) (hnan : p.weight.isNaN = false) : p.Eligible :=
  ((counts_iff p).mp h).resolve_right fun hspoiled => Bool.noConfusion (hspoiled.2.symm.trans hnan)

theorem best?_of_spoils (h : Spoils preferences p) : best? preferences = some p := by
  obtain ⟨before, after, rfl, hnames, hnan, hbefore⟩ := h
  have hcounts : p.Counts := (counts_iff p).mpr (.inr ⟨hnames, hnan⟩)
  have hnone : before.filter (·.Counts) = [] := List.filter_eq_nil_iff.mpr (by simpa using hbefore)
  rw [best?, List.filter_append, hnone, List.nil_append, List.filter_cons_of_pos (by simpa using hcounts)]
  exact foldl_better_of_nan hnan _

/-- What is the first of the greatest among those that count is so among all that are stated, as far as they are
eligible. -/
theorem preferred_of_greatest (h : Greatest (preferences.filter (·.Counts)) p) (hnan : p.weight.isNaN = false) :
    Preferred preferences p := by
  obtain ⟨counted, rest, hsplit, hbefore, hafter⟩ := h
  obtain ⟨first, later, rfl, rfl, hlater⟩ := List.filter_eq_append_iff.mp hsplit
  obtain ⟨between, after, rfl, hbetween, hcounts, rfl⟩ := List.filter_eq_cons_iff.mp hlater
  have heligible : p.Eligible := eligible_of_counts (by simpa using hcounts) hnan
  refine ⟨first ++ between, after, by simp, heligible, fun q hq hq' => ?_, fun q hq hq' => ?_⟩
  · rcases List.mem_append.mp hq with hq | hq
    · exact hbefore q (List.mem_filter.mpr ⟨hq, by simpa using hq'.counts⟩) hq'.isNaN
    · exact absurd hq'.counts (by simpa using hbetween q hq)
  · have hlt := hafter q (List.mem_filter.mpr ⟨hq, by simpa using hq'.counts⟩)
    exact (single_not_lt_iff hnan hq'.isNaN).mp hlt

theorem best?_of_not_spoils (h : ∀ p, ¬ Spoils preferences p) :
    (best? preferences = none ∧ ∀ p ∈ preferences, ¬ p.Eligible) ∨
      ∃ p, best? preferences = some p ∧ Preferred preferences p := by
  rw [best?]
  cases hcounted : preferences.filter (·.Counts) with
  | nil =>
    refine .inl ⟨rfl, fun p hp heligible => ?_⟩
    have hnone := List.filter_eq_nil_iff.mp hcounted p hp
    exact hnone (by simpa using heligible.counts)
  | cons first rest =>
    obtain ⟨before, after, hsplit, hbefore, hfirst, -⟩ := List.filter_eq_cons_iff.mp hcounted
    have hcounts : first.Counts := by simpa using hfirst
    have hnumber : first.weight.isNaN = false := by
      rw [← Bool.not_eq_true]
      exact fun hnan => h first ⟨before, after, hsplit, hcounts.1, hnan, by simpa using hbefore⟩
    obtain ⟨p, hfold, hnan, hgreatest⟩ := foldl_better_of_number hnumber rest
    exact .inr ⟨p, hfold, preferred_of_greatest (hcounted ▸ hgreatest) hnan⟩

end Preference

/-- **The preferred language is that of the greatest weight.** The entries of a header state languages and weights. When
no weight that is not a number comes first among those that count, there is no preferred language just when none is
stated with a weight above zero, and otherwise it is one of these whose weight none of them exceeds, the first that there
is. When such a weight does come first, its language is preferred whatever else is stated. -/
theorem preferredLanguage?_greatest (accept : String) :
    ∃ preferences : List Preference,
      List.Forall₂ (fun entry p => p.StatedBy entry) (accept.toList.splitOnP (· == ',')) preferences ∧
      ((∀ p, ¬ Preference.Spoils preferences p) →
        (preferredLanguage? accept = none ↔ ∀ p ∈ preferences, ¬ p.Eligible) ∧
        ∀ tag, preferredLanguage? accept = some tag → ∃ p, Preference.Preferred preferences p ∧ p.tag = tag) ∧
      ∀ p, Preference.Spoils preferences p → preferredLanguage? accept = some p.tag := by
  obtain ⟨preferences, hstated, hread⟩ := Preference.exists_forall₂_statedBy (accept.toList.splitOnP (· == ','))
  have hanswer : preferredLanguage? accept = (Preference.best? preferences).map (·.tag) := by
    rw [preferredLanguage?, splitOn_eq_splitOnP, hread, Preference.best?]
  rw [hanswer]
  refine ⟨preferences, hstated, fun h => ?_, fun p hp => ?_⟩
  · rcases Preference.best?_of_not_spoils h with ⟨hnone, hall⟩ | ⟨p, hsome, hpreferred⟩
    · rw [hnone]
      exact ⟨⟨fun _ => hall, fun _ => rfl⟩, nofun⟩
    · rw [hsome]
      refine ⟨⟨nofun, fun hall => ?_⟩, fun tag htag => ⟨p, hpreferred, Option.some.inj htag⟩⟩
      obtain ⟨before, after, rfl, heligible, -⟩ := hpreferred
      exact absurd heligible (hall p (by simp))
  · rw [Preference.best?_of_spoils hp]
    rfl

/-- A weight that is not a number is preferred to the full weight. -/
theorem preferredLanguage?_not_a_number :
    let en : Preference := ⟨"en", 0.0 / 0.0⟩
    let de : Preference := ⟨"de", 1⟩
    List.Forall₂ (fun entry p => p.StatedBy entry) ("en;q=nan, de".toList.splitOnP (· == ',')) [en, de] ∧
      ¬ en.Eligible ∧ de.Eligible ∧ preferredLanguage? "en;q=nan, de" = some "en" := by
  intro en de
  have hen : en.StatedBy "en;q=nan".toList :=
    ⟨"en".toList, ["q=nan".toList], by decide, by decide, @Weighs.stated _ [] "nan".toList [] rfl nofun⟩
  have hde : de.StatedBy " de".toList := ⟨" de".toList, [], by decide, by decide, .unstated nofun⟩
  have hnan : ¬ 0 < en.weight := by decide
  exact ⟨.cons hen (.cons hde .nil), fun h => hnan h.positive, ⟨⟨by decide, by decide⟩, by decide⟩, by decide +kernel⟩

end Stencil.Http
