import Stencil.Proofs.Number.Double

/-!
Whole numbers as doubles.

A double holds 53 bits, so a whole number of no more than that is one without any rounding. The library makes a double
of it in two steps, by normalizing its bits and by multiplying with a power of ten, which is 1 here. Each step ends in a
rounding that has nothing to round: all that is shifted in or out are zeros.

The way back needs no arithmetic. A finite double is taken apart in one way only, so the number that it is tells which
double it is, and zero alone leaves the sign open.
-/

namespace Stencil.Number

open Float.Model Float.Model.UnpackedFloat

variable {m n : Nat} {e : Int}

theorem log2_mul_two_pow (hn : n ≠ 0) (k : Nat) : (n * 2 ^ k).log2 = n.log2 + k := by
  induction k with
  | zero => rw [pow_zero, mul_one, add_zero]
  | succ k ih => rw [pow_succ, ← mul_assoc, mul_comm, Nat.log2_two_mul (by positivity), ih, add_assoc]

theorem unpackSign_packComponents (sign : Sign) (exponent : BitVec 11) (mantissa : BitVec 52) :
    Sign.ofBitVec (unpackSign (packComponents .binary64 sign exponent mantissa)) = sign := by
  change Sign.ofBitVec ((sign.toBitVec ++ exponent ++ mantissa).extractLsb' 63 1) = sign
  rw [BitVec.extractLsb'_append_eq_of_le (by decide), BitVec.extractLsb'_append_eq_of_le (by decide)]
  cases sign <;> rfl

/-- The three fields of a double are read as they are written, where the exponent has no special meaning. -/
theorem unpack_packComponents (sign : Sign) {exponent : BitVec 11} (mantissa : BitVec 52) (hlast : exponent ≠ -1#11)
    (hfirst : exponent ≠ 0#11) :
    UnpackedFloat.unpack .binary64 (packComponents .binary64 sign exponent mantissa) =
      .finite sign (1#1 ++ mantissa).toNat (exponent.toNat - 1075) (by rw [toNat_leading]; omega) := by
  obtain ⟨b, hb⟩ : ∃ b, b = packComponents .binary64 sign exponent mantissa := ⟨_, rfl⟩
  have hsign : Sign.ofBitVec (unpackSign b) = sign := by rw [hb, unpackSign_packComponents]
  have hexponent : unpackExponent b = exponent := by rw [hb, unpackExponent_packComponents]
  have hmantissa : unpackMantissa b = mantissa := by rw [hb, unpackMantissa_packComponents]
  rw [← hb]
  clear hb
  subst hsign hexponent hmantissa
  delta UnpackedFloat.unpack
  dsimp only
  rw [if_neg hlast, if_neg hfirst]
  rfl

/-! ## 1. Normal doubles -/

/-- The mantissa and the exponent of a double that fills its 53 bits. -/
structure Normal (m : Nat) (e : Int) : Prop where
  le_mantissa : 2 ^ 52 ≤ m
  mantissa_lt : m < 2 ^ 53
  le_exponent : -1074 ≤ e
  exponent_le : e ≤ 971

namespace Normal

theorem pos (h : Normal m e) : 0 < m := (Nat.two_pow_pos 52).trans_le h.le_mantissa

theorem log2 (h : Normal m e) : m.log2 = 52 := (Nat.log2_eq_iff h.pos.ne').mpr ⟨h.le_mantissa, h.mantissa_lt⟩

/-- Zeros behind the mantissa make no difference to the exponent that is aimed at. -/
theorem targetExponent (h : Normal m e) (k : Nat) :
    Format.binary64.targetExponent (totalExponent (m * 2 ^ k) (e - k)) = e := by
  have hlow := h.le_exponent
  rw [totalExponent, log2_mul_two_pow h.pos.ne', h.log2]
  change max (((52 + k : Nat) : Int) + 1 + (e - k) - 53) (-1074) = e
  omega

/-- Zeros behind the mantissa are shifted out again. -/
theorem shiftToTargetExponent (h : Normal m e) (k : Nat) :
    UnpackedFloat.shiftToTargetExponent .binary64 (m * 2 ^ k) (e - k) .exact = (⟨m, false, false⟩, e) := by
  have hshift : ∀ k m, Nat.repeat ExtendedMantissa.shiftRightOne k ⟨m * 2 ^ k, false, false⟩ = ⟨m, false, false⟩ := by
    intro k
    induction k with
    | zero => exact fun m => by rw [pow_zero, mul_one]; rfl
    | succ k ih =>
      intro m
      rw [Nat.repeat, pow_succ', ← mul_assoc, ih, ExtendedMantissa.shiftRightOne]
      simp
  have hamount : (e - (e - k)).toNat = k := by omega
  rw [UnpackedFloat.shiftToTargetExponent, h.targetExponent, shiftToExponent, hamount]
  exact Prod.ext (hshift k m) (sub_add_cancel e k)

/-- Nothing is rounded where only zeros are left behind. -/
theorem roundWithAccuracy (h : Normal m e) (sign : Sign) (k : Nat) :
    UnpackedFloat.roundWithAccuracy .binary64 sign (m * 2 ^ k) (e - k) .exact = .finite sign m e h.pos := by
  have hagain := h.shiftToTargetExponent 0
  rw [pow_zero, mul_one, Nat.cast_zero, sub_zero] at hagain
  have hrounded : ExtendedMantissa.roundedMantissa ⟨m, false, false⟩ = m := rfl
  rw [UnpackedFloat.roundWithAccuracy, h.shiftToTargetExponent]
  dsimp only
  rw [hrounded, hagain]
  exact dif_neg h.pos.ne'

theorem pack (h : Normal m e) (sign : Sign) : UnpackedFloat.pack .binary64 (.finite sign m e h.pos) =
    packComponents .binary64 sign (BitVec.ofNat 11 (e + 1075).toNat) (BitVec.ofNat 52 m) := by
  have hlow := h.le_exponent
  have hhigh := h.exponent_le
  have hbiased : (e + Format.binary64.exponentBias + Format.binary64.mantissaBitsWithoutImplicit).toNat =
      (e + 1075).toNat := by
    change (e + 1023 + 52).toNat = (e + 1075).toNat
    omega
  delta UnpackedFloat.pack
  dsimp only
  rw [hbiased, if_neg (by omega), if_pos (by rw [h.log2]; rfl)]

/-- What is packed is unpacked again. -/
theorem unpack_pack (h : Normal m e) (sign : Sign) :
    (Float.Model.pack (.finite sign m e h.pos)).unpack = .finite sign m e h.pos := by
  obtain ⟨hmantissa, hlt, hlow, hhigh⟩ := id h
  have hexponent : (BitVec.ofNat 11 (e + 1075).toNat).toNat = (e + 1075).toNat := by
    rw [BitVec.toNat_ofNat]
    omega
  -- the first bit is not written, because it is never zero
  have happend : (1#1 ++ BitVec.ofNat 52 m).toNat = m := by
    rw [toNat_leading, BitVec.toNat_ofNat]
    omega
  have hnotLast : BitVec.ofNat 11 (e + 1075).toNat ≠ -1#11 := fun heq => by
    rw [heq] at hexponent
    change 2047 = (e + 1075).toNat at hexponent
    omega
  have hnotFirst : BitVec.ofNat 11 (e + 1075).toNat ≠ 0#11 := fun heq => by
    rw [heq] at hexponent
    change 0 = (e + 1075).toNat at hexponent
    omega
  change UnpackedFloat.unpack .binary64 (UnpackedFloat.pack .binary64 (.finite sign m e h.pos)) = _
  rw [h.pack, unpack_packComponents sign _ hnotLast hnotFirst, finite.injEq, hexponent]
  exact ⟨rfl, happend, by omega⟩

end Normal

/-! ## 2. Whole numbers -/

/-- The bits of a whole number, moved to the front. -/
theorem normal_whole (hn : n ≠ 0) (hlt : n < 2 ^ 53) : Normal (n * 2 ^ (52 - n.log2)) (n.log2 - 52) := by
  have hlog : n.log2 < 53 := (Nat.log2_lt hn).mpr hlt
  have hne : n * 2 ^ (52 - n.log2) ≠ 0 := by positivity
  have hwhole := (Nat.log2_eq_iff (k := 52) hne).mp (by rw [log2_mul_two_pow hn]; omega)
  exact ⟨hwhole.1, hwhole.2, by omega, by omega⟩

theorem round_whole (hn : n ≠ 0) (hlt : n < 2 ^ 53) (sign : Sign) :
    UnpackedFloat.round .binary64 sign n 0 =
      .finite sign (n * 2 ^ (52 - n.log2)) (n.log2 - 52) (normal_whole hn hlt).pos := by
  have hlog : n.log2 < 53 := (Nat.log2_lt hn).mpr hlt
  have htarget : Format.binary64.targetExponent (totalExponent n 0) = n.log2 - 52 := by
    rw [totalExponent, Format.targetExponent]
    change max ((n.log2 : Int) + 1 + 0 - 53) (-1074) = n.log2 - 52
    omega
  have hamount : (0 - ((n.log2 : Int) - 52)).toNat = 52 - n.log2 := by omega
  have hexponent : (0 : Int) - (52 - n.log2 : Nat) = n.log2 - 52 := by omega
  have hexact := (normal_whole hn hlt).roundWithAccuracy sign 0
  rw [pow_zero, mul_one, Nat.cast_zero, sub_zero] at hexact
  rw [UnpackedFloat.round]
  dsimp only
  rw [htarget, decreaseExponent]
  dsimp only
  rw [hamount, hexponent, Nat.shiftLeft_eq]
  exact hexact

theorem unpack_toFloat (hn : n ≠ 0) (hlt : n < 2 ^ 53) :
    n.toUInt64.toFloat.toModel.unpack =
      .finite .positive (n * 2 ^ (52 - n.log2)) (n.log2 - 52) (normal_whole hn hlt).pos := by
  have hword : n.toUInt64.toNat = n := UInt64.toNat_ofNat_of_lt' (hlt.trans (by decide))
  have hpositive : compare (n : Int) 0 = .gt := Int.compare_eq_gt.mpr (by omega)
  rw [← (normal_whole hn hlt).unpack_pack, ← round_whole hn hlt]
  change (Float.Model.pack (ofUInt64 .binary64 n.toUInt64)).unpack = _
  rw [UnpackedFloat.ofUInt64, hword, UnpackedFloat.ofNat, UnpackedFloat.ofInt, UnpackedFloat.normalize, hpositive]
  rfl

/-- A whole number of 53 bits is a double with the same bits. -/
theorem unpack_ofNat (hn : n ≠ 0) (hlt : n < 2 ^ 53) :
    (Float.ofNat n).toModel.unpack =
      .finite .positive (n * 2 ^ (52 - n.log2)) (n.log2 - 52) (normal_whole hn hlt).pos := by
  have hnormal := normal_whole hn hlt
  have hone : (Float.ofBits 0x3FF0000000000000).toModel.unpack = .finite .positive (2 ^ 52) (-52) (by decide) := by rfl
  have hproduct : Float.ofNat n = n.toUInt64.toFloat * Float.ofBits 0x3FF0000000000000 := by
    change Float.ofScientific n false 0 = _
    rw [Float.ofScientific, dif_pos ⟨hlt, by decide⟩]
    rfl
  rw [hproduct]
  change (Float.Model.pack (UnpackedFloat.mul .binary64 _ _)).unpack = _
  rw [unpack_toFloat hn hlt, hone]
  exact (congrArg (fun u => (Float.Model.pack u).unpack) (hnormal.roundWithAccuracy .positive 52)).trans
    (hnormal.unpack_pack .positive)

/-- The bits of a whole number are that number, wherever they stand. -/
theorem ofUnpacked?_whole (hn : n ≠ 0) (hlt : n < 2 ^ 53) (sign : Sign) :
    ofUnpacked? (.finite sign (n * 2 ^ (52 - n.log2)) (n.log2 - 52) (normal_whole hn hlt).pos) =
      some (sign.apply n : ℚ) := by
  have hlog : n.log2 < 53 := (Nat.log2_lt hn).mpr hlt
  have hshift : ((2 ^ (52 - n.log2) : Nat) : ℚ) * 2 ^ ((n.log2 : Int) - 52) = 1 := by
    rw [Nat.cast_pow, Nat.cast_ofNat, ← zpow_natCast, ← zpow_add₀ two_ne_zero]
    rw [show ((52 - n.log2 : Nat) : Int) + ((n.log2 : Int) - 52) = 0 by omega, zpow_zero]
  have hscale : ((n * 2 ^ (52 - n.log2) : Nat) : ℚ) * 2 ^ ((n.log2 : Int) - 52) = n := by
    rw [Nat.cast_mul, mul_assoc, hshift, mul_one]
  rw [ofUnpacked?_finite]
  cases sign with
  | positive => exact congrArg some (by simpa [Sign.apply] using hscale)
  | negative => exact congrArg some (by simpa [Sign.apply] using hscale)

theorem rational?_ofNat (hlt : n < 2 ^ 53) : rational? (Float.ofNat n) = some (n : ℚ) := by
  by_cases hn : n = 0
  · subst hn
    rfl
  · rw [rational?, unpack_ofNat hn hlt, ofUnpacked?_whole hn hlt]
    rfl

/-- A whole number of 53 bits is a double. -/
theorem rational?_ofInt {i : Int} (h : i.natAbs < 2 ^ 53) : rational? (Float.ofInt i) = some (i : ℚ) := by
  cases i with
  | ofNat n => exact rational?_ofNat h
  | negSucc n =>
    have hnormal := normal_whole n.succ_ne_zero h
    have hneg : (Float.ofInt (.negSucc n)).toModel = Float.Model.pack (.finite .negative _ _ hnormal.pos) :=
      congrArg (fun u : UnpackedFloat => Float.Model.pack u.neg) (unpack_ofNat n.succ_ne_zero h)
    rw [rational?, hneg, hnormal.unpack_pack, ofUnpacked?_whole n.succ_ne_zero h]
    rfl

/-! ## 3. Doubles that are whole numbers -/

namespace Binary

/-- How a finite double is taken apart: its significand fills all 53 bits, unless the exponent is the lowest one. -/
structure Canonical (m : Nat) (e : Int) : Prop where
  lt : m < 2 ^ 53
  le_exponent : -1074 ≤ e
  full : e ≠ -1074 → 2 ^ 52 ≤ m

/-- There is one way to take a number apart like that. -/
theorem Canonical.eq {f : Int} (hm : Canonical m e) (hn : Canonical n f) (h : (m : ℚ) * 2 ^ e = n * 2 ^ f) :
    m = n ∧ e = f := by
  wlog hle : e ≤ f generalizing m n e f
  · obtain ⟨hnm, hfe⟩ := this hn hm h.symm (by omega)
    exact ⟨hnm.symm, hfe.symm⟩
  obtain ⟨k, rfl⟩ := Int.le.dest hle
  have hmul : (m : ℚ) = n * 2 ^ k := by
    apply mul_right_cancel₀ (zpow_ne_zero e (two_ne_zero : (2 : ℚ) ≠ 0))
    rw [h, zpow_add₀ two_ne_zero, zpow_natCast]
    ring
  have hmul : m = n * 2 ^ k := by exact_mod_cast hmul
  have hlow := hm.le_exponent
  cases k with
  | zero =>
    rw [pow_zero, mul_one] at hmul
    exact ⟨hmul, (Int.add_zero e).symm⟩
  | succ k =>
    -- the significand with the larger exponent is full, so the other one would have a bit too many
    have hfull := hn.full (by omega)
    have hlt := hm.lt
    have hpow : 2 ≤ 2 ^ (k + 1) := Nat.le_self_pow k.succ_ne_zero 2
    have hbig : 2 ^ 52 * 2 ≤ n * 2 ^ (k + 1) := Nat.mul_le_mul hfull hpow
    omega

variable {x y : Float} {negative : Bool} {q : ℚ}

theorem canonical_of_ofFloat (h : ofFloat x = .finite negative m e) : Canonical m e := by
  unfold ofFloat at h
  simp only [] at h
  split at h
  · split at h <;> cases h
  · split at h
    · cases h
      exact ⟨by omega, by omega, fun hne => absurd rfl hne⟩
    · cases h
      exact ⟨by omega, by omega, fun _ => by omega⟩

/-- The bits of a double from the parts of it. -/
theorem toNat_toBits (h : ofFloat x = .finite negative m e) :
    x.toBits.toNat = (if negative then 2 ^ 63 else 0) + ((e + 1074).toNat * 2 ^ 52 + m) := by
  have hlt : x.toBits.toNat < 2 ^ 64 := x.toBits.toNat_lt
  unfold ofFloat at h
  simp only [] at h
  split at h
  · split at h <;> cases h
  · split at h
    · cases h
      simp only [decide_eq_true_eq]
      split <;> omega
    · cases h
      simp only [decide_eq_true_eq]
      split <;> omega

/-- A double is told by its sign and by the number that it is. -/
theorem eq_of_ofFloat {f : Int} (hx : ofFloat x = .finite negative m e) (hy : ofFloat y = .finite negative n f)
    (h : (m : ℚ) * 2 ^ e = n * 2 ^ f) : x = y := by
  obtain ⟨rfl, rfl⟩ := (canonical_of_ofFloat hx).eq (canonical_of_ofFloat hy) h
  have hbits : x.toBits = y.toBits := UInt64.toNat_inj.mp ((toNat_toBits hx).trans (toNat_toBits hy).symm)
  obtain ⟨⟨bx, hbx⟩⟩ := x
  obtain ⟨⟨bY, hbY⟩⟩ := y
  obtain rfl : bx = bY := hbits
  rfl

end Binary

variable {x y : Float} {q : ℚ} {i : Int}

/-- The parts of a finite double from the number that it is. Zero comes with either sign. -/
theorem exists_finite (hx : rational? x = some q) : ∃ negative m e, Binary.ofFloat x = .finite negative m e ∧
    (m : ℚ) * 2 ^ e = |q| ∧ (q ≠ 0 → negative = decide (q < 0)) := by
  rw [rational?_eq] at hx
  cases hparts : Binary.ofFloat x with
  | nan => rw [hparts] at hx; cases hx
  | infinite negative => rw [hparts] at hx; cases hx
  | finite negative m e =>
    rw [hparts, Binary.rational?, Option.some.injEq] at hx
    have hsize : (0 : ℚ) ≤ m * 2 ^ e := mul_nonneg m.cast_nonneg (zpow_nonneg zero_le_two e)
    refine ⟨negative, m, e, rfl, ?_⟩
    cases negative with
    | false =>
      rw [if_neg Bool.false_ne_true, one_mul] at hx
      rw [← hx]
      exact ⟨(abs_of_nonneg hsize).symm, fun _ => (decide_eq_false (not_lt.mpr hsize)).symm⟩
    | true =>
      rw [if_pos rfl, neg_one_mul, neg_mul] at hx
      rw [← hx]
      exact ⟨by rw [abs_neg, abs_of_nonneg hsize], fun hne => (decide_eq_true (by
        exact neg_lt_zero.mpr (lt_of_le_of_ne hsize fun hzero => hne (by rw [← hzero, neg_zero])))).symm⟩

/-- A double that is a number other than zero is told by that number. -/
theorem eq_of_rational? (hx : rational? x = some q) (hy : rational? y = some q) (hq : q ≠ 0) : x = y := by
  obtain ⟨negative, m, e, hparts, hm, hsign⟩ := exists_finite hx
  obtain ⟨negative', n, f, hparts', hn, hsign'⟩ := exists_finite hy
  obtain rfl : negative = negative' := (hsign hq).trans (hsign' hq).symm
  exact Binary.eq_of_ofFloat hparts hparts' (hm.trans hn.symm)

/-- A double that is zero has one of two signs. -/
theorem eq_zero_of_rational? (hx : rational? x = some 0) : x = 0 ∨ x = -0 := by
  obtain ⟨negative, m, e, hparts, hm, -⟩ := exists_finite hx
  have hzero : (m : ℚ) * 2 ^ e = (0 : Nat) * 2 ^ (-1074 : Int) := by rw [hm, abs_zero, Nat.cast_zero, zero_mul]
  cases negative with
  | false => exact .inl (Binary.eq_of_ofFloat hparts (by decide +kernel) hzero)
  | true => exact .inr (Binary.eq_of_ofFloat hparts (by decide +kernel) hzero)

theorem isWhole_of_eq_natCast {k : Nat} (h : (m : ℚ) * 2 ^ e = k) : isWhole m e = true := by
  rw [isWhole, Bool.or_eq_true, decide_eq_true_eq, beq_iff_eq]
  by_cases he : 0 ≤ e
  · exact .inl he
  · obtain ⟨j, rfl⟩ := Int.exists_eq_neg_ofNat (by omega : e ≤ 0)
    have hmul : (m : ℚ) = k * 2 ^ j := by
      rw [← h, zpow_neg, zpow_natCast, inv_mul_cancel_right₀ (pow_ne_zero j two_ne_zero)]
    have hmul : m = k * 2 ^ j := by exact_mod_cast hmul
    rw [neg_neg, Int.toNat_natCast, hmul]
    exact .inr (Nat.mul_mod_left ..)

/-- The whole number that is found in a double is the number that it is. -/
theorem whole?_eq (hx : rational? x = some (i : ℚ)) : whole? x = some i := by
  obtain ⟨negative, m, e, hparts, hm, hsign⟩ := exists_finite hx
  have hsize : (m : ℚ) * 2 ^ e = (i.natAbs : ℚ) := by rw [hm, Nat.cast_natAbs, Int.cast_abs]
  have hpart : (wholePart m e : Int) = i.natAbs := by
    rw [← floor_eq_wholePart, hsize]
    exact Int.floor_natCast _
  have hvalue : (if negative then -(i.natAbs : Int) else i.natAbs) = i := by
    by_cases hzero : i = 0
    · subst hzero
      cases negative <;> rfl
    · rw [hsign (Int.cast_ne_zero.mpr hzero)]
      simp only [decide_eq_true_eq, Int.cast_lt_zero]
      split <;> omega
  rw [whole?, hparts]
  dsimp only
  rw [if_pos (isWhole_of_eq_natCast hsize), hpart, hvalue]

/-- A whole number that was made a double, and taken from it, is the double itself; zero has lost its sign. -/
theorem ofInt_eq (hx : rational? x = some (i : ℚ)) (hi : i.natAbs < 2 ^ 53) :
    Float.ofInt i = if x = -0 then 0 else x := by
  by_cases hzero : i = 0
  · subst hzero
    rcases eq_zero_of_rational? (by exact_mod_cast hx) with rfl | rfl
    · rfl
    · rfl
  · have heq : Float.ofInt i = x := eq_of_rational? (rational?_ofInt hi) hx (by exact_mod_cast hzero)
    have hsigned : x ≠ -0 := by
      rintro rfl
      have hminus : rational? (-0) = some 0 := rfl
      rw [hminus, Option.some.injEq] at hx
      exact hzero (by exact_mod_cast hx.symm)
    rw [if_neg hsigned, heq]

end Stencil.Number
