import Stencil.Helper.Logic
import Stencil.Proofs.Number.Order

/-!
The order of values.

Two values are compared as strings when each of them is a string, a list or a map, and as numbers otherwise. There is an
order among the values of the one sort, and one among those of the other that are numbers (`TotallyPreordered`); across
the two there is none, since a string may be a number and be compared with numbers as that, and with strings as a
string. What holds of all pairs is that a comparison turns around with its arguments (`looseCompare?_swap`), and this is
what the four helpers that compare have in common.
-/

namespace Stencil

namespace Value

variable {a b v : Value}

/-! ## 1. The two sorts of values -/

/-- Whether a value is compared as a string with others that are. -/
def IsText : Value → Prop
  | .string _ | .list _ | .map _ => True
  | _ => False

/-- Whether a value is compared as a number with all others, and is one. -/
def IsNumber : Value → Prop
  | .null | .bool _ => True
  | .number x => x.isNaN = false
  | _ => False

theorem isText_iff (v : Value) : v.IsText ↔ ∃ s, v.plain = .string s := by
  cases v <;> simp [IsText, plain]

/-! ## 2. Comparing -/

theorem compareNumbers?_eq (x y : Float) : compareNumbers? x y = Number.order? x y := by
  rw [compareNumbers?]
  simp only [Number.lt_iff, Number.beq_iff, Number.order?_swap x y]
  cases Number.order? x y with
  | none => rfl
  | some o => cases o <;> rfl

theorem looseCompare?_of_strings {s t : String} (ha : a.plain = .string s) (hb : b.plain = .string t) :
    a.looseCompare? b = some (compare s t) := by
  rw [looseCompare?, ha, hb]

/-- Values that are not both compared as strings are compared as numbers. -/
theorem looseCompare?_of_not_isText (h : ¬ (a.IsText ∧ b.IsText)) :
    a.looseCompare? b = Number.order? a.plain.toNumber b.plain.toNumber := by
  rw [looseCompare?]
  split
  · next s t ha hb => exact absurd ⟨(isText_iff a).mpr ⟨s, ha⟩, (isText_iff b).mpr ⟨t, hb⟩⟩ h
  · exact compareNumbers?_eq _ _

/-- A comparison turns around with its arguments. -/
theorem looseCompare?_swap (a b : Value) : b.looseCompare? a = (a.looseCompare? b).map Ordering.swap := by
  by_cases h : a.IsText ∧ b.IsText
  · obtain ⟨s, hs⟩ := (isText_iff a).mp h.1
    obtain ⟨t, ht⟩ := (isText_iff b).mp h.2
    rw [looseCompare?_of_strings hs ht, looseCompare?_of_strings ht hs]
    exact congrArg some Std.OrientedCmp.eq_swap
  · rw [looseCompare?_of_not_isText h, looseCompare?_of_not_isText (mt And.symm h)]
    exact Number.order?_swap _ _

/-! ## 3. Preorders -/

/-- One value is before another or level with it. -/
def AtMost (a b : Value) : Prop := ∃ o, a.looseCompare? b = some o ∧ o.isLE = true

/-- The values of a sort are in one order, which may put several of them level. -/
structure TotallyPreordered (sort : Value → Prop) : Prop where
  total : ∀ a b, sort a → sort b → AtMost a b ∨ AtMost b a
  trans : ∀ a b c, sort a → sort b → sort c → AtMost a b → AtMost b c → AtMost a c

/-- It is enough to compare by keys that have an order themselves. -/
theorem totallyPreordered_of_key {α : Type} (cmp : α → α → Ordering) [Std.TransCmp cmp] {sort : Value → Prop}
    (HasKey : Value → α → Prop) (hkey : ∀ v, sort v → ∃ k, HasKey v k)
    (hcmp : ∀ a b j k, HasKey a j → HasKey b k → a.looseCompare? b = some (cmp j k)) : TotallyPreordered sort where
  total a b ha hb := by
    obtain ⟨j, hj⟩ := hkey a ha
    obtain ⟨k, hk⟩ := hkey b hb
    by_cases h : (cmp j k).isLE = true
    · exact .inl ⟨cmp j k, hcmp a b j k hj hk, h⟩
    · refine .inr ⟨cmp k j, hcmp b a k j hk hj, ?_⟩
      rw [Std.OrientedCmp.lt_of_not_isLE h]
      rfl
  trans a b c ha hb hc hab hbc := by
    obtain ⟨i, hi⟩ := hkey a ha
    obtain ⟨j, hj⟩ := hkey b hb
    obtain ⟨k, hk⟩ := hkey c hc
    obtain ⟨o, ho, hole⟩ := hab
    obtain ⟨p, hp, hple⟩ := hbc
    rw [hcmp a b i j hi hj] at ho
    rw [hcmp b c j k hj hk] at hp
    cases ho
    cases hp
    exact ⟨cmp i k, hcmp a c i k hi hk, Std.TransCmp.isLE_trans hole hple⟩

theorem totallyPreordered_isText : TotallyPreordered IsText :=
  totallyPreordered_of_key compare (fun v s => v.plain = .string s) (fun v hv => (isText_iff v).mp hv)
    fun _ _ _ _ => looseCompare?_of_strings

theorem IsNumber.place? (h : v.IsNumber) : ¬ v.IsText ∧ ∃ p, Number.place? v.plain.toNumber = some p := by
  have hsome : ∀ x : Float, x.isNaN = false → ∃ p, Number.place? x = some p := by
    intro x hx
    refine Option.ne_none_iff_exists'.mp fun hnone => ?_
    rw [(Number.place?_eq_none_iff x).mp hnone] at hx
    cases hx
  cases v with
  | null => exact ⟨id, hsome 0 (by decide)⟩
  | bool x => exact ⟨id, hsome (if x then 1 else 0) (by cases x <;> decide)⟩
  | number x => exact ⟨id, hsome x h⟩
  | minusNan | string _ | list _ | map _ => cases h

theorem totallyPreordered_isNumber : TotallyPreordered IsNumber := by
  refine totallyPreordered_of_key Number.Place.compare
    (fun v p => ¬ v.IsText ∧ Number.place? v.plain.toNumber = some p) (fun v hv => ?_) ?_
  · obtain ⟨htext, p, hp⟩ := hv.place?
    exact ⟨p, htext, hp⟩
  · rintro a b j k ⟨ha, hj⟩ ⟨-, hk⟩
    rw [looseCompare?_of_not_isText fun h => ha h.1, Number.order?, hj, hk]
    rfl

end Value

/-! ## 4. The helpers that compare -/

namespace Helper.Logic

theorem ordered_eq (name : String) (a b : Value) (rest : List Value) (named : Fields Value) (test : Ordering → Bool) :
    ordered ⟨name, a :: b :: rest, named⟩ test = .ok (((a.looseCompare? b).map test).getD false) := by
  have hrequire : Args.require ⟨name, a :: b :: rest, named⟩ 2 = .ok () := by
    rw [Args.require, if_neg]
    simp [Args.size]
  rw [ordered, binary, hrequire]
  rfl

/-- **The helpers that compare are coherent.** A comparison turns around with its arguments, so that `gt` and `lt`, and
`gte` and `lte`, are the same question with the arguments exchanged. A pair that has an order is in exactly one of the
three relations, with `lte` and `gte` together for the last, and a pair without one is in none. Among the values that
are compared as strings the comparison is a total preorder, on strings the one by code points, and so it is among those
that are numbers, on these the one of numbers. -/
theorem comparisons_coherent :
    (∀ a b : Value, b.looseCompare? a = (a.looseCompare? b).map Ordering.swap) ∧
    (∀ (a b : Value) (rest others : List Value) (named more : Fields Value),
      let call name := truth? name ⟨name, a :: b :: rest, named⟩
      let flipped name := truth? name ⟨name, b :: a :: others, more⟩
      call "gt" = flipped "lt" ∧ call "gte" = flipped "lte" ∧
      ∃ lt gt lte gte, call "lt" = some (.ok lt) ∧ call "gt" = some (.ok gt) ∧ call "lte" = some (.ok lte) ∧
        call "gte" = some (.ok gte) ∧
        match a.looseCompare? b with
        | some _ => [lt, gt, lte && gte].count true = 1
        | none => lt = false ∧ gt = false ∧ lte = false ∧ gte = false) ∧
    (Value.TotallyPreordered Value.IsText ∧
      ∀ s t, (Value.string s).looseCompare? (.string t) = some (compare s t)) ∧
    (Value.TotallyPreordered Value.IsNumber ∧
      ∀ x y, (Value.number x).looseCompare? (.number y) = some .lt ↔ x < y) := by
  refine ⟨Value.looseCompare?_swap, ?_, ⟨Value.totallyPreordered_isText, fun s t => ?_⟩,
    ⟨Value.totallyPreordered_isNumber, fun x y => ?_⟩⟩
  · intro a b rest others named more
    simp only [truth?, ordered_eq, Value.looseCompare?_swap a b]
    cases a.looseCompare? b with
    | none => exact ⟨rfl, rfl, _, _, _, _, rfl, rfl, rfl, rfl, rfl, rfl, rfl, rfl⟩
    | some o => cases o <;> exact ⟨rfl, rfl, _, _, _, _, rfl, rfl, rfl, rfl, rfl⟩
  · exact Value.looseCompare?_of_strings rfl rfl
  · have hnumber : ¬ ((Value.number x).IsText ∧ (Value.number y).IsText) := fun h => h.1
    rw [Value.looseCompare?_of_not_isText hnumber, Number.lt_iff]
    rfl

end Helper.Logic

end Stencil
