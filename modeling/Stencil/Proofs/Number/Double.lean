import Mathlib.Data.Rat.Floor
import Mathlib.Algebra.Order.Floor.Ring
import Mathlib.Tactic.Ring
import Stencil.Number.Binary

/-!
The number that a double is.

The library has its own account of doubles, by bit vectors, and the tests for finite doubles are stated in it;
`Binary` takes the bits apart by division. The first section puts the two side by side, so that whatever is said about
a double can be said about one rational number. The second section is about rounding that number toward zero.
-/

namespace Stencil.Number

open Float.Model Float.Model.UnpackedFloat

/-! ## 1. Doubles as rational numbers -/

/-- The number that a double taken apart by the library is, if it is finite. -/
def ofUnpacked? : UnpackedFloat → Option ℚ
  | .zero _ => some 0
  | .finite sign m e _ => some (sign.apply m * 2 ^ e)
  | .infinity _ | .notANumber => none

@[simp] theorem ofUnpacked?_zero (sign : Sign) : ofUnpacked? (.zero sign) = some 0 := rfl

@[simp] theorem ofUnpacked?_finite (sign : Sign) (m : Nat) (e : Int) (h : 0 < m) :
    ofUnpacked? (.finite sign m e h) = some ((sign.apply m : ℚ) * 2 ^ e) := rfl

/-- The number that a finite double is. -/
def rational? (x : Float) : Option ℚ := ofUnpacked? x.toModel.unpack

/-- The number that the parts of a double stand for. -/
def Binary.rational? : Binary → Option ℚ
  | .finite negative m e => some ((if negative then -1 else 1) * m * 2 ^ e)
  | .infinite _ | .nan => none

theorem isFinite_eq (x : Float) : x.isFinite = (rational? x).isSome := by
  change x.toModel.unpack.isFinite = (ofUnpacked? x.toModel.unpack).isSome
  cases x.toModel.unpack <;> rfl

/-! The three fields of the bits, as quotients and remainders. -/

theorem toNat_unpackExponent (b : BitVec Format.binary64.numBits) :
    (unpackExponent b).toNat = b.toNat / 2 ^ 52 % 2 ^ 11 := by
  have hfield : (unpackExponent b).toNat = (b.extractLsb 62 52).toNat := rfl
  rw [hfield, BitVec.extractLsb_toNat, Nat.shiftRight_eq_div_pow]

theorem unpackExponent_eq_iff (b : BitVec Format.binary64.numBits) (k : BitVec 11) :
    unpackExponent b = k ↔ b.toNat / 2 ^ 52 % 2 ^ 11 = k.toNat := by
  rw [← toNat_unpackExponent, BitVec.toNat_inj]

theorem toNat_unpackMantissa (b : BitVec Format.binary64.numBits) :
    (unpackMantissa b).toNat = b.toNat % 2 ^ 52 := by
  have hfield : (unpackMantissa b).toNat = (b.extractLsb 51 0).toNat := rfl
  rw [hfield, BitVec.extractLsb_toNat, Nat.shiftRight_eq_div_pow, pow_zero, Nat.div_one]

theorem toNat_unpackSign (b : BitVec Format.binary64.numBits) : (unpackSign b).toNat = b.toNat / 2 ^ 63 := by
  have hlt : b.toNat < 2 ^ 64 := b.isLt
  have hfield : (unpackSign b).toNat = (b.extractLsb 63 63).toNat := rfl
  rw [hfield, BitVec.extractLsb_toNat, Nat.shiftRight_eq_div_pow]
  omega

/-- The sign of a number, as a factor. -/
theorem apply_unpackSign (b : BitVec Format.binary64.numBits) (m : Nat) :
    ((Sign.ofBitVec (unpackSign b)).apply m : ℚ) =
      (if decide (2 ^ 63 ≤ b.toNat) = true then -1 else 1) * m := by
  have hlt : b.toNat < 2 ^ 64 := b.isLt
  have hsign := toNat_unpackSign b
  by_cases h : 2 ^ 63 ≤ b.toNat
  · have hne : unpackSign b ≠ 0#1 := fun heq => by
      rw [heq] at hsign
      simp only [BitVec.toNat_ofNat] at hsign
      omega
    rw [Sign.ofBitVec, if_neg hne, if_pos (decide_eq_true h)]
    simp [Sign.apply]
  · have heq : unpackSign b = 0#1 := BitVec.eq_of_toNat_eq (by
      rw [hsign]
      simp only [BitVec.toNat_ofNat]
      omega)
    rw [Sign.ofBitVec, if_pos heq, if_neg (by simpa using h)]
    simp [Sign.apply]

/-- The leading bit of a mantissa, which is not written. -/
theorem toNat_leading (mantissa : BitVec 52) : (1#1 ++ mantissa).toNat = 2 ^ 52 + mantissa.toNat := by
  rw [BitVec.toNat_append, Nat.shiftLeft_eq, Nat.mul_comm, ← Nat.two_pow_add_eq_or_of_lt mantissa.isLt]
  rfl

/-- Taking a double apart by bit vectors and by division comes to the same number. -/
theorem rational?_eq (x : Float) : rational? x = (Binary.ofFloat x).rational? := by
  obtain ⟨b, hb⟩ : ∃ b : BitVec Format.binary64.numBits, b = x.toModel.toBits.toBitVec := ⟨_, rfl⟩
  have hbits : x.toBits.toNat = b.toNat := by rw [hb]; rfl
  have hunpack : x.toModel.unpack = UnpackedFloat.unpack Format.binary64 b := by rw [hb]; rfl
  have hmantissa := toNat_unpackMantissa b
  rw [rational?, hunpack, Binary.ofFloat, hbits]
  delta UnpackedFloat.unpack
  dsimp only
  by_cases htop : b.toNat / 2 ^ 52 % 2 ^ 11 = 2047
  · rw [if_pos ((unpackExponent_eq_iff b (-1#_)).mpr htop), if_pos htop]
    split <;> split <;> rfl
  rw [if_neg (mt (unpackExponent_eq_iff b (-1#_)).mp htop), if_neg htop]
  by_cases hlow : b.toNat / 2 ^ 52 % 2 ^ 11 = 0
  · -- Below the normal numbers the library has an extra case for zero.
    rw [if_pos ((unpackExponent_eq_iff b 0#_).mpr hlow), if_pos hlow]
    by_cases hzero : unpackMantissa b = 0#_
    · have hfraction : b.toNat % 2 ^ 52 = 0 := by rw [← hmantissa, hzero]; rfl
      rw [dif_pos hzero, hfraction, ofUnpacked?_zero]
      simp [Binary.rational?]
    · rw [dif_neg hzero, ofUnpacked?_finite, Binary.rational?, apply_unpackSign, hmantissa, toNat_unpackExponent, hlow]
      rfl
  · have happend : (1#1 ++ unpackMantissa b).toNat = 2 ^ 52 + b.toNat % 2 ^ 52 :=
      (toNat_leading (unpackMantissa b)).trans (congrArg (2 ^ 52 + ·) hmantissa)
    rw [if_neg (mt (unpackExponent_eq_iff b 0#_).mp hlow), if_neg hlow, ofUnpacked?_finite, Binary.rational?,
      apply_unpackSign, happend, toNat_unpackExponent]
    rfl

/-! ## 2. Rounding toward zero -/

/-- A number without its fraction. -/
def truncate (q : ℚ) : ℤ := if q < 0 then ⌈q⌉ else ⌊q⌋

theorem truncate_intCast (n : Int) : truncate (n : ℚ) = n := by
  unfold truncate
  split
  · exact Int.ceil_intCast n
  · exact Int.floor_intCast n

theorem floor_eq_wholePart (m : Nat) (e : Int) : ⌊(m : ℚ) * 2 ^ e⌋ = wholePart m e := by
  rw [wholePart]
  by_cases he : 0 ≤ e
  · obtain ⟨k, rfl⟩ := Int.eq_ofNat_of_zero_le he
    rw [if_pos he]
    have : (m : ℚ) * 2 ^ (k : ℤ) = ((m * 2 ^ k : ℕ) : ℚ) := by push_cast; rw [zpow_natCast]
    rw [this, Int.floor_natCast]
    rfl
  · obtain ⟨k, hk⟩ := Int.exists_eq_neg_ofNat (by omega : e ≤ 0)
    subst hk
    rw [if_neg he, neg_neg, Int.toNat_natCast, zpow_neg, zpow_natCast, ← div_eq_mul_inv]
    exact_mod_cast Rat.floor_natCast_div_natCast m (2 ^ k)

theorem truncate_neg (q : ℚ) : truncate (-q) = -truncate q := by
  unfold truncate
  rcases lt_trichotomy q 0 with h | rfl | h
  · rw [if_neg (by linarith), if_pos h, Int.floor_neg]
  · simp
  · rw [if_pos (by linarith), if_neg (by linarith), Int.ceil_neg]

/-- What is asked of a double as an integer is its number rounded toward zero, or the bound on its side. -/
theorem truncateWithin_eq {x : Float} {q : ℚ} (hx : rational? x = some q) (low high : Int) :
    truncateWithin low high x = max low (min high (truncate q)) := by
  rw [rational?_eq] at hx
  rw [truncateWithin]
  cases h : Binary.ofFloat x with
  | nan => rw [h] at hx; cases hx
  | infinite negative => rw [h] at hx; cases hx
  | finite negative m e =>
    rw [h, Binary.rational?, Option.some.injEq] at hx
    have hwhole : truncate ((m : ℚ) * 2 ^ e) = wholePart m e := by
      rw [truncate, if_neg (not_lt.mpr (mul_nonneg m.cast_nonneg (zpow_nonneg zero_le_two e))), floor_eq_wholePart]
    cases negative with
    | false =>
      rw [if_neg Bool.false_ne_true, one_mul] at hx
      rw [← hx, hwhole]
      rfl
    | true =>
      rw [if_pos rfl, neg_one_mul, neg_mul] at hx
      rw [← hx, truncate_neg, hwhole]
      rfl

end Stencil.Number
