import Mathlib.Algebra.Order.Ring.Nat
import Stencil.Number.Digits
import Stencil.Number.Numeral

/-!
Numbers of a fixed width.

A number that is written with zeros in front has the asked number of digits, as long as it does not need more, and it
is read as the number that it is. Reading that stops counting at a limit reads the same below that limit. Digits are
told from what follows them by the first character that is none.
-/

namespace Stencil.Number

variable {w n : Nat}

/-! ## 1. Writing -/

theorem length_digits_le (hw : 0 < w) (h : n < 10 ^ w) : (digits n).length ≤ w := by
  induction w generalizing n with
  | zero => exact absurd hw (Nat.lt_irrefl 0)
  | succ w ih =>
    rw [digits]
    split
    · rw [List.length_singleton]
      omega
    · next hn =>
      rw [pow_succ] at h
      have hw : 0 < w := by
        rw [Nat.pos_iff_ne_zero]
        rintro rfl
        omega
      have hrest := ih hw (Nat.div_lt_of_lt_mul (by omega) : n / 10 < 10 ^ w)
      rw [List.length_append, List.length_singleton]
      omega

theorem length_padded (hw : 0 < w) (h : n < 10 ^ w) : (padded w n).length = w := by
  have hle := length_digits_le hw h
  rw [padded, List.length_append, List.length_replicate]
  omega

theorem isBlank_of_isDigit {c : Char} (h : c.isDigit = true) : Text.isBlank c = false := by
  have hrange : 48 ≤ c.toNat ∧ c.toNat ≤ 57 := Char.isDigit_iff_toNat.mp h
  rw [Bool.eq_false_iff]
  unfold Text.isBlank
  simp only [ne_eq, Bool.or_eq_true, Bool.and_eq_true, decide_eq_true_eq, beq_iff_eq]
  omega

theorem padded_ne_nil (w n : Nat) : padded w n ≠ [] := List.append_ne_nil_of_right_ne_nil _ (digits_ne_nil n)

theorem isDigit_of_mem_padded {c : Char} (h : c ∈ padded w n) : c.isDigit = true := by
  rcases List.mem_append.mp h with h | h
  · rw [List.eq_of_mem_replicate h]
    rfl
  · exact isDigit_of_mem_digits h

/-! ## 2. Reading -/

theorem digitValue?_lt {c : Char} {d : Nat} (h : digitValue? c = some d) : d < 10 := by
  unfold digitValue? at h
  split at h
  · next hc =>
    have hnine : c.toNat ≤ 57 := (Char.isDigit_iff_toNat.mp hc).2
    cases h
    omega
  · cases h

/-- Zeros in front do not count. -/
theorem valueFrom?_padded (w n : Nat) : valueFrom? 0 (padded w n) = some n := by
  have hzeros (k : Nat) : valueFrom? 0 (List.replicate k '0') = some 0 := by
    induction k with
    | zero => rfl
    | succ k ih => exact ih
  rw [padded, valueFrom?_append, hzeros, Option.bind_some, valueFrom?_digits]

theorem value?_padded (w n : Nat) : value? (padded w n) = some n := by
  obtain ⟨c, cs, hpadded⟩ := List.exists_cons_of_ne_nil (padded_ne_nil w n)
  rw [hpadded, value?, ← hpadded, valueFrom?_padded]

theorem cappedFrom?_lt {limit : Nat} {cs : List Char} {start n : Nat} (h : cappedFrom? limit start cs = some n) :
    n < (start + 1) * 10 ^ cs.length := by
  induction cs generalizing start with
  | nil =>
    cases h
    simp
  | cons c cs ih =>
    obtain ⟨d, hd, h⟩ := Option.bind_eq_some_iff.mp h
    have hlt := digitValue?_lt hd
    have hstart : (if start < limit then 10 * start + d else start) + 1 ≤ (start + 1) * 10 := by
      split <;> omega
    calc n < ((if start < limit then 10 * start + d else start) + 1) * 10 ^ cs.length := ih h
      _ ≤ (start + 1) * 10 * 10 ^ cs.length := Nat.mul_le_mul_right _ hstart
      _ = (start + 1) * 10 ^ (c :: cs).length := by rw [List.length_cons, Nat.pow_succ', Nat.mul_assoc]

/-- Below the limit all digits count. -/
theorem cappedFrom?_eq {limit start : Nat} {cs : List Char} (h : (start + 1) * 10 ^ cs.length ≤ limit) :
    cappedFrom? limit start cs = valueFrom? start cs := by
  induction cs generalizing start with
  | nil => rfl
  | cons c cs ih =>
    rw [List.length_cons, pow_succ'] at h
    have hstart : start < limit := by
      have hpos : 0 < 10 * 10 ^ cs.length := Nat.mul_pos (by decide) (Nat.pow_pos (by decide))
      exact (Nat.le_mul_of_pos_right (start + 1) hpos).trans h
    rw [cappedFrom?, valueFrom?]
    cases hd : digitValue? c with
    | none => rfl
    | some d =>
      have hdigit := digitValue?_lt hd
      rw [Option.bind_some, Option.bind_some, if_pos hstart]
      refine ih (le_trans (Nat.mul_le_mul_right _ (by omega : 10 * start + d + 1 ≤ (start + 1) * 10)) ?_)
      rwa [mul_assoc]

/-- So many digits say a number that is no larger than they can say. -/
theorem valueFrom?_lt {cs : List Char} {start n : Nat} (h : valueFrom? start cs = some n) :
    n < (start + 1) * 10 ^ cs.length := by
  rw [← cappedFrom?_eq (Nat.le_refl ((start + 1) * 10 ^ cs.length))] at h
  exact cappedFrom?_lt h

/-- A number of so many digits is read, as long as it has no more than nine. -/
theorem capped?_padded (hw : 0 < w) (hcap : w ≤ 9) (h : n < 10 ^ w) : capped? (10 ^ 9) (padded w n) = some n := by
  have hlimit : (0 + 1) * 10 ^ (padded w n).length ≤ 10 ^ 9 := by
    rw [length_padded hw h, Nat.zero_add, Nat.one_mul]
    exact Nat.pow_le_pow_right (by decide) hcap
  obtain ⟨c, cs, hpadded⟩ := List.exists_cons_of_ne_nil (padded_ne_nil w n)
  rw [hpadded, capped?, ← hpadded, cappedFrom?_eq hlimit, valueFrom?_padded]

/-! ## 3. Digits in front of other text -/

theorem spanDigits_append {ds rest : List Char} (hds : ∀ c ∈ ds, c.isDigit = true)
    (hrest : ∀ c ∈ rest.head?, c.isDigit = false) : spanDigits (ds ++ rest) = (ds, rest) := by
  rw [spanDigits, List.takeWhile_append_of_pos hds, List.dropWhile_append_of_pos hds]
  cases rest with
  | nil => rw [List.takeWhile_nil, List.append_nil, List.dropWhile_nil]
  | cons c rest =>
    have hc : ¬ c.isDigit = true := by
      rw [hrest c rfl]
      exact Bool.false_ne_true
    rw [List.takeWhile_cons_of_neg hc, List.append_nil, List.dropWhile_cons_of_neg hc]

end Stencil.Number
