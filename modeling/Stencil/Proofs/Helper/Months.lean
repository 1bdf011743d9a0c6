import Stencil.Helper.Date
import Stencil.Proofs.Calendar.Reading
import Stencil.Proofs.Number.Double

/-!
Moving dates by months and years.

The amount of such a move is a double: a rational number when it is finite. The months that it comes to are held to the
range of a machine integer twice over, once when the double is rounded and once when years become months, and only the
second of these can change the answer, because a count beyond the first one is too far for any date. So months are
moved by exactly, and years as long as their months fit into 64 bits; beyond that what is left of the count in 64 bits
may be a small one.
-/

namespace Stencil.Helper.Date

open Stencil.Number Stencil.Calendar

/-! ## 1. Counts of months -/

/-- The months in one of a unit, if it is a unit of the calendar. -/
def monthsIn? : TimeUnit → Option Int
  | .month => some 1
  | .year => some 12
  | _ => none

/-- An integer fits into 64 bits. -/
def FitsWord (n : Int) : Prop := -(2 ^ 63) ≤ n ∧ n < 2 ^ 63

/-- An integer held to 64 bits. -/
def clampWord (n : Int) : Int := max (-(2 ^ 63)) (min (2 ^ 63 - 1) n)

/-- What is left of an integer in 64 bits. -/
def wrapWord (n : Int) : Int := Int.bmod n (2 ^ 64)

theorem clampWord_eq {n : Int} (h : FitsWord n) : clampWord n = n := by
  unfold FitsWord clampWord at *
  omega

theorem wrapWord_eq {n : Int} (h : FitsWord n) : wrapWord n = n := by
  unfold FitsWord wrapWord at *
  exact Int.bmod_eq_of_le (by omega) (by omega)

theorem truncateToWord_eq {x : Float} {amount : ℚ} (hx : rational? x = some amount) :
    truncateToWord x = clampWord (truncate amount) := truncateWithin_eq hx _ _

/-- The months that a number of units is counted as. -/
def monthCount (unit : TimeUnit) (amount : ℚ) : Int :=
  match unit with
  | .year => wrapWord (12 * clampWord (truncate amount))
  | _ => truncate amount

/-! ## 2. Moved instants -/

/-- An instant that is to be moved by months is answered with the one instant that this is, if its year is one that is
worked with, and otherwise with a failure. -/
def AnswersMove (t : Instant) (months : Int) (answer : HelperResult Value) : Prop :=
  ∃ moved, (∀ other, t.MovedBy months other ↔ other = moved) ∧
    answer = if moved.inRange then .ok (.string moved.text) else .error (.failed "date out of range")

theorem instant?_cases {zone : Zone} {v : Value} {t : Instant} (h : instant? zone v = some t) :
    (∃ ms, Instant.ofMillis? ms = some t) ∨ ∃ text, Reader.instant? zone text = some t := by
  cases v with
  | number x =>
    unfold instant? at h
    simp only [] at h
    split at h
    · exact .inl ⟨_, h⟩
    · cases h
  | string s => exact .inr ⟨s, h⟩
  | _ => cases h

theorem instant?_inRange {zone : Zone} {v : Value} {t : Instant} (h : instant? zone v = some t) : t.inRange = true := by
  obtain ⟨ms, h⟩ | ⟨text, h⟩ := instant?_cases h
  · exact Instant.inRange_of_inRange? h
  · exact Reader.instant?_inRange h

/-- Holding a count of months to 64 bits does not change where it leads. -/
theorem addMonths?_clampWord {t moved : Instant} {months : Int} (ht : t.inRange = true) (h : t.MovedBy months moved) :
    t.addMonths? (clampWord months) = if moved.inRange then some moved else none := by
  by_cases hfits : FitsWord months
  · rw [clampWord_eq hfits, Instant.addMonths?_eq ht h]
  · have hfar : 2 ^ 31 ≤ months.natAbs ∧ 2 ^ 31 ≤ (clampWord months).natAbs := by
      unfold FitsWord clampWord at *
      omega
    rw [h.not_inRange ht hfar.1, if_neg Bool.false_ne_true, Instant.addMonths?, if_pos hfar.2]

theorem later?_eq {unit : TimeUnit} {perUnit : Int} {t moved : Instant} {x : Float} {amount : ℚ}
    (hunit : monthsIn? unit = some perUnit) (ht : t.inRange = true) (hx : rational? x = some amount)
    (h : t.MovedBy (monthCount unit amount) moved) :
    later? t x unit = if moved.inRange then some moved else none := by
  cases unit with
  | month =>
    rw [later?, truncateToWord_eq hx]
    exact addMonths?_clampWord ht h
  | year =>
    rw [later?, truncateToWord_eq hx]
    exact Instant.addMonths?_eq ht h
  | _ => cases hunit

/-- What is asked of a date, a finite amount and a unit of the calendar is answered by the months they are counted as. -/
theorem add_eq {args : Args} {setting : Setting} {unit : TimeUnit} {t : Instant} {amount : ℚ} (hsize : 3 ≤ args.size)
    (hunit : TimeUnit.read? (args.textAt 2) = some unit)
    (ht : instant? (zoneOf setting (namedZone args)) args.primary = some t)
    (hamount : rational? (args.numberAt 1) = some amount) :
    add args setting = match later? t (args.numberAt 1) unit with
      | some moved => .ok (.string moved.text)
      | none => .error (.failed "date out of range") := by
  have hrequire : args.require 3 = .ok () := by rw [Args.require, if_neg (by omega)]
  have hasked : Date.unit args 2 = .ok unit := by rw [Date.unit, hunit]
  have hfinite : (args.numberAt 1).isFinite = true := by rw [isFinite_eq, hamount]; rfl
  unfold add
  rw [hrequire, hasked, ht]
  simp only [hfinite]
  rfl

theorem monthCount_eq {unit : TimeUnit} {perUnit : Int} {amount : ℚ} (hunit : monthsIn? unit = some perUnit)
    (hfits : unit = .year → FitsWord (12 * truncate amount)) : monthCount unit amount = perUnit * truncate amount := by
  cases unit with
  | month =>
    obtain rfl := Option.some.inj hunit
    exact (one_mul _).symm
  | year =>
    obtain rfl := Option.some.inj hunit
    have hyears : FitsWord (truncate amount) := by
      have := hfits rfl
      unfold FitsWord at *
      omega
    rw [monthCount, clampWord_eq hyears, wrapWord_eq (hfits rfl)]
  | _ => cases hunit

/-- **Months are added exactly, and years as long as their months fit into 64 bits.** A date that is to be moved by a
finite amount of a unit of the calendar is answered with the one date that lies that many whole months away, or with
a failure when its year is not one that is worked with. Beyond 64 bits it is what is left there of the count of months
that is answered for. -/
theorem add_moves {args : Args} {setting : Setting} {unit : TimeUnit} {perUnit : Int} {t : Instant} {amount : ℚ}
    (hsize : 3 ≤ args.size) (hread : TimeUnit.read? (args.textAt 2) = some unit)
    (hunit : monthsIn? unit = some perUnit)
    (ht : instant? (zoneOf setting (namedZone args)) args.primary = some t)
    (hamount : rational? (args.numberAt 1) = some amount) :
    AnswersMove t (monthCount unit amount) (add args setting) ∧
      ((unit = .year → FitsWord (12 * truncate amount)) →
        AnswersMove t (perUnit * truncate amount) (add args setting)) := by
  have hcount : AnswersMove t (monthCount unit amount) (add args setting) := by
    refine ⟨t.moved (monthCount unit amount), fun _ => Instant.movedBy_iff, ?_⟩
    rw [add_eq hsize hread ht hamount, later?_eq hunit (instant?_inRange ht) hamount (t.movedBy_moved _)]
    cases (t.moved (monthCount unit amount)).inRange with
    | true => rfl
    | false => rfl
  refine ⟨hcount, fun hfits => ?_⟩
  rw [← monthCount_eq hunit hfits]
  exact hcount

/-- A request for the last day of January in 2025, so many years later. -/
def sampleArgs (years : Float) : Args :=
  ⟨"date.add", [.string "2025-01-31T00:00:00Z", .number years, .string "years"], []⟩

/-- A setting without any data. -/
def sampleSetting : Setting := ⟨.ofFields [], .memory default, .utc, ⟨0, 0⟩⟩

/-- The last day of January in 2025. -/
def sampleInstant : Instant := ⟨1738281600, 0⟩

theorem instant?_sampleArgs (years : Float) :
    instant? (zoneOf sampleSetting (namedZone (sampleArgs years))) (sampleArgs years).primary = some sampleInstant := by
  change instant? .utc (.string "2025-01-31T00:00:00Z") = some sampleInstant
  decide +kernel

/-- A year and three quarters later it is twelve months later. -/
theorem add_moves_one_year : AnswersMove sampleInstant 12 (add (sampleArgs 1.75) sampleSetting) := by
  have hamount : rational? ((sampleArgs 1.75).numberAt 1) = some (7 / 4) := by decide +kernel
  have hyears : truncate (7 / 4) = 1 := by decide +kernel
  have hmoves := add_moves (by decide) rfl rfl (instant?_sampleArgs 1.75) hamount
  rw [hyears] at hmoves
  exact hmoves.2 fun _ => by unfold FitsWord; decide

/-- After 2⁶² years the date is the same as before: nothing is left of their months in 64 bits. -/
theorem add_two_pow_62_years :
    instant? (zoneOf sampleSetting (namedZone (sampleArgs 4611686018427387904)))
        (sampleArgs 4611686018427387904).primary = some sampleInstant ∧
      rational? ((sampleArgs 4611686018427387904).numberAt 1) = some (2 ^ 62) ∧
      add (sampleArgs 4611686018427387904) sampleSetting = .ok (.string sampleInstant.text) ∧
      ¬ AnswersMove sampleInstant (12 * truncate (2 ^ 62)) (add (sampleArgs 4611686018427387904) sampleSetting) := by
  have ht := instant?_sampleArgs 4611686018427387904
  have hamount : rational? ((sampleArgs 4611686018427387904).numberAt 1) = some (2 ^ 62) := by decide +kernel
  have hyears : truncate (2 ^ 62) = 2 ^ 62 := by decide +kernel
  have hlater : later? sampleInstant ((sampleArgs 4611686018427387904).numberAt 1) .year = some sampleInstant := by
    rw [later?, truncateToWord_eq hamount, hyears]
    decide +kernel
  have hadd : add (sampleArgs 4611686018427387904) sampleSetting = .ok (.string sampleInstant.text) := by
    rw [add_eq (by decide) rfl ht hamount, hlater]
  refine ⟨ht, hamount, hadd, fun ⟨moved, hmoved, hanswer⟩ => ?_⟩
  have hfar := ((hmoved moved).mpr rfl).not_inRange (instant?_inRange ht) (by rw [hyears]; decide)
  rw [hfar, hadd] at hanswer
  cases hanswer

end Stencil.Helper.Date
