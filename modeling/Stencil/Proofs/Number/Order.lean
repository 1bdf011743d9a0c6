import Stencil.Number.Binary

/-!
The order of doubles.

Doubles are compared by the library after they are taken apart, and there are sixteen ways in which two of them can be
what they are. What their order is like is not to be seen from that. So every double that is a number gets a place,
which is three integers, and to compare two doubles is to compare their places, one integer after the other
(`compare_eq`). Whatever is asked of the order then is known of that comparison: it turns around with its arguments, and
it is transitive. What is not a number has no place, and is in no order with anything.

The library takes numbers of single precision apart in the same way, so they have the same places.
-/

namespace Stencil.Number

open Float.Model Float.Model.UnpackedFloat

/-! ## 1. Places -/

/-- The place of a double: on which side of zero it lies, infinities being farther out than what is finite, and then its
exponent and its significand, which are counted down below zero. -/
structure Place where
  side : Int
  exponent : Int
  significand : Int

/-- The order of places: by side, then by exponent, then by significand. -/
def Place.compare : Place → Place → Ordering :=
  compareLex (compareOn side) (compareLex (compareOn exponent) (compareOn significand))

instance : Std.TransCmp Place.compare :=
  inferInstanceAs (Std.TransCmp
    (compareLex (compareOn Place.side) (compareLex (compareOn Place.exponent) (compareOn Place.significand))))

/-- The place of a double taken apart by the library, if it is a number. -/
def ofUnpackedPlace? : UnpackedFloat → Option Place
  | .notANumber => none
  | .infinity sign => some ⟨sign.apply 2, 0, 0⟩
  | .zero _ => some ⟨0, 0, 0⟩
  | .finite sign m e _ => some ⟨sign.apply 1, sign.apply e, sign.apply m⟩

/-- The place of a double, if it is a number. -/
def place? (x : Float) : Option Place := ofUnpackedPlace? x.toModel.unpack

theorem ofUnpackedPlace?_eq_none_iff (a : UnpackedFloat) : ofUnpackedPlace? a = none ↔ a.isNaN = true := by
  cases a with
  | notANumber => exact ⟨fun _ => rfl, fun _ => rfl⟩
  | infinity | zero | finite =>
    constructor
    · intro h
      cases h
    · intro h
      cases h

theorem place?_eq_none_iff (x : Float) : place? x = none ↔ x.isNaN = true :=
  ofUnpackedPlace?_eq_none_iff x.toModel.unpack

/-! ## 2. Comparing -/

theorem compare_neg (i j : Int) : compare (-i) (-j) = (compare i j).swap := by
  rw [← Std.OrientedOrd.eq_swap]
  rcases Int.lt_trichotomy i j with h | rfl | h
  · rw [Int.compare_eq_gt.mpr h, Int.compare_eq_gt.mpr (by omega)]
  · rw [Std.ReflOrd.compare_self, Std.ReflOrd.compare_self]
  · rw [Int.compare_eq_lt.mpr h, Int.compare_eq_lt.mpr (by omega)]

theorem compare_natCast (m n : Nat) : compare (m : Int) n = compare m n := by
  rcases Nat.lt_trichotomy m n with h | rfl | h
  · rw [Nat.compare_eq_lt.mpr h, Int.compare_eq_lt.mpr (by omega)]
  · rw [Std.ReflOrd.compare_self, Std.ReflOrd.compare_self]
  · rw [Nat.compare_eq_gt.mpr h, Int.compare_eq_gt.mpr (by omega)]

/-- The order of two finite doubles on one side of zero, by exponent and significand. -/
theorem compare_finite (sign : Sign) {m n : Nat} (e f : Int) (hm : 0 < m) (hn : 0 < n) :
    UnpackedFloat.compare (.finite sign m e hm) (.finite sign n f hn) =
      some (Place.compare ⟨sign.apply 1, sign.apply e, sign.apply m⟩ ⟨sign.apply 1, sign.apply f, sign.apply n⟩) := by
  cases sign with
  | negative =>
    dsimp only [UnpackedFloat.compare, Place.compare, compareLex, compareOn, Sign.apply]
    rw [compare_neg, compare_neg, compare_neg, compare_natCast, ← Ordering.swap_then, Std.ReflOrd.compare_self]
    rfl
  | positive =>
    dsimp only [UnpackedFloat.compare, Place.compare, compareLex, compareOn, Sign.apply]
    rw [compare_natCast, Std.ReflOrd.compare_self]
    rfl

/-- Two doubles are compared by their places. -/
theorem compare_eq (a b : UnpackedFloat) :
    a.compare b = (ofUnpackedPlace? a).bind fun p => (ofUnpackedPlace? b).map p.compare := by
  cases a with
  | notANumber => rfl
  | infinity s =>
    cases b with
    | notANumber => rfl
    | infinity t | finite t => cases s <;> cases t <;> rfl
    | zero t => cases s <;> rfl
  | zero s =>
    cases b with
    | notANumber | zero t => rfl
    | infinity t | finite t => cases t <;> rfl
  | finite s m e hm =>
    cases b with
    | notANumber => rfl
    | infinity t => cases s <;> cases t <;> rfl
    | zero t => cases s <;> rfl
    | finite t n f hn =>
      by_cases hside : s = t
      · subst hside
        exact compare_finite s e f hm hn
      · cases s <;> cases t
        · exact absurd rfl hside
        · rfl
        · rfl
        · exact absurd rfl hside

/-- The order of two doubles, if both are numbers. -/
def order? (x y : Float) : Option Ordering := (place? x).bind fun p => (place? y).map p.compare

theorem lt_iff (x y : Float) : x < y ↔ order? x y = some .lt := by
  have hmodel : x < y ↔ (x.toModel.unpack.compare y.toModel.unpack == some .lt) = true := by
    change decide (x.toModel.unpack.lt y.toModel.unpack = true) = true ↔ _
    exact decide_eq_true_iff
  rw [hmodel, order?, place?, place?, ← compare_eq, beq_iff_eq]

theorem beq_iff (x y : Float) : (x == y) = true ↔ order? x y = some .eq := by
  change (x.toModel.unpack.compare y.toModel.unpack == some .eq) = true ↔ _
  rw [order?, place?, place?, ← compare_eq, beq_iff_eq]

theorem order?_swap (x y : Float) : order? y x = (order? x y).map Ordering.swap := by
  rw [order?, order?]
  cases place? x with
  | none => cases place? y <;> rfl
  | some p =>
    cases place? y with
    | none => rfl
    | some q => exact congrArg some Std.OrientedCmp.eq_swap

theorem beq_comm (x y : Float) : (x == y) = (y == x) := by
  rw [Bool.eq_iff_iff, beq_iff, beq_iff, order?_swap y x]
  cases order? y x with
  | none => rfl
  | some o => cases o <;> decide

/-- A double is equal to itself if it is a number, and only then. -/
theorem beq_self (x : Float) : (x == x) = !x.isNaN := by
  rw [Bool.eq_iff_iff, beq_iff, Bool.not_eq_true', ← Bool.not_eq_true, ← place?_eq_none_iff, order?]
  cases place? x with
  | none => simp
  | some p => simp [Std.ReflCmp.compare_self]

/-! ## 3. Single precision -/

/-- The place of a number of single precision, if it is a number. -/
def singlePlace? (x : Float32) : Option Place := ofUnpackedPlace? x.toModel.unpack

section Single

variable {x y z : Float32}

theorem single_isNaN_eq_false_iff : x.isNaN = false ↔ ∃ p, singlePlace? x = some p := by
  rw [← Option.ne_none_iff_exists', ← Bool.not_eq_true]
  exact not_congr (ofUnpackedPlace?_eq_none_iff x.toModel.unpack).symm

theorem single_lt_iff :
    x < y ↔ ∃ p q, singlePlace? x = some p ∧ singlePlace? y = some q ∧ p.compare q = .lt := by
  have hmodel : x < y ↔ (x.toModel.unpack.compare y.toModel.unpack == some .lt) = true := by
    change decide (x.toModel.unpack.lt y.toModel.unpack = true) = true ↔ _
    exact decide_eq_true_iff
  rw [hmodel, compare_eq, beq_iff_eq]
  change ((singlePlace? x).bind fun p => (singlePlace? y).map p.compare) = some .lt ↔ _
  cases singlePlace? x <;> cases singlePlace? y <;> simp

theorem single_le_iff :
    x ≤ y ↔ ∃ p q, singlePlace? x = some p ∧ singlePlace? y = some q ∧ (p.compare q).isLE = true := by
  have hmodel : x ≤ y ↔ (x.toModel.unpack.compare y.toModel.unpack).any (·.isLE) = true := by
    change decide (x.toModel.unpack.le y.toModel.unpack = true) = true ↔ _
    exact decide_eq_true_iff
  rw [hmodel, compare_eq]
  change ((singlePlace? x).bind fun p => (singlePlace? y).map p.compare).any (·.isLE) = true ↔ _
  cases singlePlace? x <;> cases singlePlace? y <;> simp

theorem single_isNaN_of_lt (h : x < y) : x.isNaN = false ∧ y.isNaN = false := by
  obtain ⟨p, q, hp, hq, -⟩ := single_lt_iff.mp h
  exact ⟨single_isNaN_eq_false_iff.mpr ⟨p, hp⟩, single_isNaN_eq_false_iff.mpr ⟨q, hq⟩⟩

theorem single_isNaN_of_le (h : x ≤ y) : x.isNaN = false ∧ y.isNaN = false := by
  obtain ⟨p, q, hp, hq, -⟩ := single_le_iff.mp h
  exact ⟨single_isNaN_eq_false_iff.mpr ⟨p, hp⟩, single_isNaN_eq_false_iff.mpr ⟨q, hq⟩⟩

/-- Numbers of single precision are in one order or in the other. -/
theorem single_not_lt_iff (hx : x.isNaN = false) (hy : y.isNaN = false) : ¬ x < y ↔ y ≤ x := by
  obtain ⟨p, hp⟩ := single_isNaN_eq_false_iff.mp hx
  obtain ⟨q, hq⟩ := single_isNaN_eq_false_iff.mp hy
  have hlt : x < y ↔ p.compare q = .lt := by simp [single_lt_iff, hp, hq]
  have hle : y ≤ x ↔ (q.compare p).isLE = true := by simp [single_le_iff, hp, hq]
  have hswap : q.compare p = (p.compare q).swap := Std.OrientedCmp.eq_swap
  rw [hlt, hle, hswap]
  cases p.compare q <;> decide

theorem single_lt_irrefl (x : Float32) : ¬ x < x := by
  rw [single_lt_iff]
  rintro ⟨p, q, hp, hq, hpq⟩
  cases hp.symm.trans hq
  cases Std.ReflCmp.compare_self.symm.trans hpq

theorem single_le_of_lt (h : x < y) : x ≤ y := by
  obtain ⟨p, q, hp, hq, hpq⟩ := single_lt_iff.mp h
  exact single_le_iff.mpr ⟨p, q, hp, hq, by rw [hpq]; rfl⟩

theorem single_lt_of_lt_of_le (hxy : x < y) (hyz : y ≤ z) : x < z := by
  obtain ⟨p, q, hp, hq, hpq⟩ := single_lt_iff.mp hxy
  obtain ⟨q', r, hq', hr, hqr⟩ := single_le_iff.mp hyz
  cases hq.symm.trans hq'
  exact single_lt_iff.mpr ⟨p, r, hp, hr, Std.TransCmp.lt_of_lt_of_isLE hpq hqr⟩

theorem single_lt_of_le_of_lt (hxy : x ≤ y) (hyz : y < z) : x < z := by
  obtain ⟨p, q, hp, hq, hpq⟩ := single_le_iff.mp hxy
  obtain ⟨q', r, hq', hr, hqr⟩ := single_lt_iff.mp hyz
  cases hq.symm.trans hq'
  exact single_lt_iff.mpr ⟨p, r, hp, hr, Std.TransCmp.lt_of_isLE_of_lt hpq hqr⟩

end Single

end Stencil.Number
