import Stencil.Proofs.Calendar.Span
import Stencil.Proofs.Calendar.Writing
import Stencil.Proofs.Helper.Months
import Stencil.Proofs.Number.Whole

/-!
Months that are added and counted again.

A date that was moved by whole months or years is told apart from where it came from by just that many of them. It
takes four things: the moved date is written and read as itself, since it has whole milliseconds and a year of four
digits; a month more or less is never hidden by the day that is held to a shorter month; a count of years is that of
its months without a rest; and the count is a double without any rounding.
-/

namespace Stencil.Helper.Date

open Stencil.Number Stencil.Calendar

/-! ## 1. Sums and differences -/

/-- A whole number of units, few enough to be counted in months, is added exactly. -/
theorem add_of_movedBy {args : Args} {setting : Setting} {unit : TimeUnit} {perUnit n : Int} {b moved : Instant}
    (hsize : 3 ≤ args.size) (hread : TimeUnit.read? (args.textAt 2) = some unit) (hunit : monthsIn? unit = some perUnit)
    (hb : instant? (zoneOf setting (namedZone args)) args.primary = some b)
    (hamount : rational? (args.numberAt 1) = some (n : ℚ)) (hfits : FitsWord (12 * n))
    (hmoved : b.MovedBy (perUnit * n) moved) (hrange : moved.inRange = true) :
    add args setting = .ok (.string moved.text) := by
  have hcount : b.MovedBy (monthCount unit n) moved := by
    rwa [monthCount_eq hunit fun _ => by rwa [truncate_intCast], truncate_intCast]
  rw [add_eq hsize hread hb hamount, later?_eq hunit (instant?_inRange hb) hamount hcount, hrange, if_pos rfl]

/-- Two dates and a unit are answered with the units between them. -/
theorem diff_eq {args : Args} {setting : Setting} {unit : TimeUnit} {a b : Instant} (hsize : 2 ≤ args.size)
    (hunit : TimeUnit.read? (args.textAt 2) = some unit)
    (ha : instant? (zoneOf setting (namedZone args)) (args.get 0) = some a)
    (hb : instant? (zoneOf setting (namedZone args)) (args.get 1) = some b) :
    diff args setting = .ok (.number (difference a b unit)) := by
  have hrequire : args.require 2 = .ok () := by rw [Args.require, if_neg (by omega)]
  have hgiven : (args.get 2).isNull = false := by
    cases hv : args.get 2 with
    | null =>
      rw [Args.textAt, hv] at hunit
      cases hunit
    | _ => rfl
  have hasked : Date.unit args 2 = .ok unit := by rw [Date.unit, hunit]
  unfold diff
  rw [hrequire, hgiven, hasked]
  simp only [ha, hb]
  rfl

/-- The months that an instant was moved by are the units that were asked for. -/
theorem difference_of_movedBy {unit : TimeUnit} {perUnit n : Int} {b moved : Instant}
    (hunit : monthsIn? unit = some perUnit) (hb : b.inRange = true) (hrange : moved.inRange = true)
    (hmoved : b.MovedBy (perUnit * n) moved) : difference moved b unit = Float.ofInt n := by
  have hcount := hmoved.monthsSince_eq hb hrange
  cases unit with
  | month =>
    obtain rfl := Option.some.inj hunit
    rw [difference, hcount, one_mul]
  | year =>
    obtain rfl := Option.some.inj hunit
    rw [difference, hcount, Int.mul_tdiv_cancel_left n (by decide)]
  | _ => cases hunit

/-! ## 2. There and back -/

theorem inRange_of_year {t : Instant} (h : 0 ≤ t.date.year ∧ t.date.year < 10000) : t.inRange = true := by
  rw [Instant.inRange_iff]
  unfold firstYear lastYear
  omega

/-- Between years of four digits there are not many months or years. -/
theorem natAbs_lt_of_movedBy {unit : TimeUnit} {perUnit n : Int} {b moved : Instant}
    (hunit : monthsIn? unit = some perUnit) (hmoved : b.MovedBy (perUnit * n) moved)
    (hyear : 0 ≤ b.date.year ∧ b.date.year < 10000) (hmovedYear : 0 ≤ moved.date.year ∧ moved.date.year < 10000) :
    n.natAbs < 120000 := by
  have hindex := hmoved.monthIndex
  have hfrom := b.valid_date.monthIndex_bounds
  have hto := moved.valid_date.monthIndex_bounds
  cases unit with
  | month =>
    obtain rfl := Option.some.inj hunit
    omega
  | year =>
    obtain rfl := Option.some.inj hunit
    omega
  | _ => cases hunit

/-- **Months and years that are added are counted again.** An instant of whole milliseconds, which every text of it is
read as, is moved by a whole number of months or years, and both years have four digits. Then the text of the moved
instant is what adding answers with, and the difference of that text to the instant, in the same unit, is the number
that was added. -/
theorem diff_add {setting : Setting} {named : Fields Value} {amount name : Value} {unit : TimeUnit} {perUnit n : Int}
    {b moved : Instant} (hread : TimeUnit.read? name.text = some unit) (hunit : monthsIn? unit = some perUnit)
    (hamount : rational? amount.toNumber = some (n : ℚ)) (hnanos : b.nanos < second) (hmillis : 1000000 ∣ b.nanos)
    (hyear : 0 ≤ b.date.year ∧ b.date.year < 10000) (hmoved : b.MovedBy (perUnit * n) moved)
    (hmovedYear : 0 ≤ moved.date.year ∧ moved.date.year < 10000) :
    (∀ zone, instant? zone (.string b.text) = some b) ∧
    ∀ v, instant? (zoneOf setting (Fields.get? "timezone" named)) v = some b →
      add ⟨"date.add", [v, amount, name], named⟩ setting = .ok (.string moved.text) ∧
      diff ⟨"date.diff", [.string moved.text, v, name], named⟩ setting = .ok (.number (Float.ofInt n)) ∧
      rational? (Float.ofInt n) = some (n : ℚ) := by
  have hsmall := natAbs_lt_of_movedBy hunit hmoved hyear hmovedYear
  have hb := inRange_of_year hyear
  have hrange := inRange_of_year hmovedYear
  have htext (t : Instant) (hyear : 0 ≤ t.date.year ∧ t.date.year < 10000) (hnanos : t.nanos = b.nanos) (zone : Zone) :
      instant? zone (.string t.text) = some t := by
    rw [← hnanos] at hmillis
    have hread := Instant.instant?_text (.of_nanos_lt hyear (by omega)) zone
    rwa [Instant.wholeMillis_eq hmillis] at hread
  refine ⟨htext b hyear rfl, fun v hv => ⟨?_, ?_, rational?_ofInt (by omega)⟩⟩
  · have hsize : 3 ≤ Args.size ⟨"date.add", [v, amount, name], named⟩ := Nat.le_refl 3
    have hfits : FitsWord (12 * n) := by
      unfold FitsWord
      omega
    exact add_of_movedBy hsize hread hunit hv hamount hfits hmoved hrange
  · have hsize : 2 ≤ Args.size ⟨"date.diff", [.string moved.text, v, name], named⟩ := Nat.le_succ 2
    rw [diff_eq hsize hread (htext moved hmovedYear hmoved.nanos _) hv, difference_of_movedBy hunit hb hrange hmoved]

/-- A year before the leap day of 2024 is the last day of February, and from there the year is counted back. -/
theorem diff_add_before_leap_day :
    let february : Instant := ⟨1709164800, 0⟩
    let before : Instant := ⟨1677542400, 0⟩
    let amount : Value := .number (Float.ofInt (-1))
    add ⟨"date.add", [.string february.text, amount, .string "years"], []⟩ sampleSetting = .ok (.string before.text) ∧
      diff ⟨"date.diff", [.string before.text, .string february.text, .string "years"], []⟩ sampleSetting =
        .ok (.number (Float.ofInt (-1))) := by
  intro february before amount
  have hamount : rational? amount.toNumber = some ((-1 : Int) : ℚ) := rational?_ofInt (by decide)
  have hmoved : february.MovedBy (12 * -1) before := by
    rw [Instant.movedBy_iff]
    decide +kernel
  have hunit : TimeUnit.read? (Value.string "years").text = some .year := rfl
  obtain ⟨hread, hback⟩ := @diff_add sampleSetting [] amount (.string "years") .year 12 (-1) february before hunit rfl
    hamount (by decide) (by decide) (by decide +kernel) hmoved (by decide +kernel)
  exact ⟨(hback _ (hread _)).1, (hback _ (hread _)).2.1⟩

end Stencil.Helper.Date
