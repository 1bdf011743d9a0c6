import Mathlib.Data.Int.Order.Basic
import Mathlib.Tactic.IntervalCases
import Stencil.Calendar.Instant

/-!
Dates and their day numbers.

Both calculations reckon in years that start in March. The first section says without any calculation in which of
those years and months a day lies, and that it lies in one only; the second and the third show that the one calculation
finds this place and that the other starts from it. So every day has one date, and every date of the calendar is that
of one day.
-/

namespace Stencil.Calendar

/-! ## 1. Years and months from March on -/

/-- The days from the first of March of the year 0 to that of another year. -/
def yearStart (year : Int) : Int := 365 * year + year / 4 - year / 100 + year / 400

/-- The days from the first of March to the first day of a month; March is the month 0. -/
def monthStart (month : Int) : Int := (153 * month + 2) / 5

/-- A day, counted from the first of March of the year 0, lies in a month of a year. -/
structure LiesIn (day year month : Int) : Prop where
  month_nonneg : 0 ≤ month
  month_lt : month < 12
  lt_year : day < yearStart (year + 1)
  month_le : yearStart year + monthStart month ≤ day
  lt_month : day < yearStart year + monthStart (month + 1)

theorem yearStart_lt_iff {a b : Int} : yearStart a < yearStart b ↔ a < b := by
  unfold yearStart
  omega

theorem yearStart_le {a b : Int} (h : a ≤ b) : yearStart a ≤ yearStart b := by
  unfold yearStart
  omega

theorem monthStart_lt_iff {a b : Int} : monthStart a < monthStart b ↔ a < b := by
  unfold monthStart
  omega

theorem monthStart_le {a b : Int} (h : a ≤ b) : monthStart a ≤ monthStart b := by
  unfold monthStart
  omega

theorem monthStart_nonneg {month : Int} (h : 0 ≤ month) : 0 ≤ monthStart month := by
  unfold monthStart
  omega

namespace LiesIn

variable {day day' year year' month month' : Int}

theorem year_le (h : LiesIn day year month) : yearStart year ≤ day := by
  have := monthStart_nonneg h.month_nonneg
  have := h.month_le
  omega

/-- The years are in the order of the days in them. -/
theorem year_mono (h : LiesIn day year month) (h' : LiesIn day' year' month') (hle : day ≤ day') : year ≤ year' := by
  have hlt : yearStart year < yearStart (year' + 1) := (h.year_le.trans hle).trans_lt h'.lt_year
  exact Int.lt_add_one_iff.mp (yearStart_lt_iff.mp hlt)

/-- So are the months of one year. -/
theorem month_mono (h : LiesIn day year month) (h' : LiesIn day' year month') (hle : day ≤ day') : month ≤ month' := by
  have hlt : monthStart month < monthStart (month' + 1) := by
    have := h.month_le
    have := h'.lt_month
    omega
  exact Int.lt_add_one_iff.mp (monthStart_lt_iff.mp hlt)

/-- A day lies in one month of one year only. -/
theorem unique (h : LiesIn day year month) (h' : LiesIn day year' month') : year = year' ∧ month = month' := by
  obtain rfl : year = year' := le_antisymm (h.year_mono h' le_rfl) (h'.year_mono h le_rfl)
  exact ⟨rfl, le_antisymm (h.month_mono h' le_rfl) (h'.month_mono h le_rfl)⟩

end LiesIn

/-! ## 2. From days to dates -/

/-- A day of an era of 400 years, less the leap days of the era that are over. -/
def withoutLeapDays (day : Int) : Int := day - day / 1460 + day / 36524 - day / 146096

theorem withoutLeapDays_mono {a b : Int} (h : a ≤ b) : withoutLeapDays a ≤ withoutLeapDays b := by
  unfold withoutLeapDays
  omega

/-- Without the leap days, the first and the last day of every year of an era are in that year. -/
theorem withoutLeapDays_ends : ∀ year : Nat, year < 400 →
    365 * (year : Int) ≤ withoutLeapDays (yearStart year) ∧
      withoutLeapDays (yearStart (year + 1) - 1) < 365 * ((year : Int) + 1) := by
  decide +kernel

theorem exists_year {day : Int} (h0 : 0 ≤ day) :
    ∀ last : Nat, day < yearStart last → ∃ year : Nat, year < last ∧ yearStart year ≤ day ∧ day < yearStart (year + 1)
  | 0, h => absurd h (not_lt.mpr h0)
  | last + 1, h => by
    by_cases hlast : day < yearStart last
    · obtain ⟨year, hlt, hyear⟩ := exists_year h0 last hlast
      exact ⟨year, hlt.trans last.lt_succ_self, hyear⟩
    · exact ⟨last, last.lt_succ_self, not_lt.mp hlast, by exact_mod_cast h⟩

/-- The year of an era in which a day of the era lies. -/
theorem year_of_era {day : Int} (h0 : 0 ≤ day) (h1 : day < 146097) :
    ∃ year, withoutLeapDays day / 365 = year ∧ 0 ≤ year ∧ year < 400 ∧ yearStart year ≤ day ∧
      day < yearStart (year + 1) := by
  obtain ⟨year, hlt, hfirst, hlast⟩ := exists_year h0 400 h1
  obtain ⟨hlow, hhigh⟩ := withoutLeapDays_ends year hlt
  have habove := withoutLeapDays_mono hfirst
  have hbelow := withoutLeapDays_mono (show day ≤ yearStart (year + 1) - 1 by omega)
  refine ⟨year, ?_, by omega, by omega, hfirst, hlast⟩
  omega

/-- The date of a day of a month, both counted from March on and from 0. -/
def Date.ofMarch (year month day : Int) : Date :=
  ⟨year + (if month < 10 then 0 else 1), (if month < 10 then month + 3 else month - 9).toNat, (day + 1).toNat⟩

/-- The month of a day is found from the number of the day in its year. -/
theorem liesIn_of_year {day year : Int} (hfirst : yearStart year ≤ day) (hlast : day < yearStart (year + 1)) :
    LiesIn day year ((5 * (day - yearStart year) + 2) / 153) := by
  have hlength : yearStart (year + 1) ≤ yearStart year + 366 := by
    unfold yearStart
    omega
  refine ⟨by omega, by omega, hlast, ?_, ?_⟩ <;> unfold monthStart <;> omega

/-- What is calculated from a day number is the month that the day lies in, and the day of that month. -/
theorem Date.ofDayNumber_liesIn (n : Int) : ∃ year month, LiesIn (n + 719468) year month ∧
    ofDayNumber n = ofMarch year month (n + 719468 - yearStart year - monthStart month) := by
  obtain ⟨day, hday⟩ : ∃ day, day = (n + 719468) % 146097 := ⟨_, rfl⟩
  obtain ⟨era, hera⟩ : ∃ era, era = (n + 719468) / 146097 := ⟨_, rfl⟩
  obtain ⟨year, hyear, h0, h400, hfirst, hlast⟩ := year_of_era (show 0 ≤ day by omega) (by omega)
  have hstart (y : Int) : yearStart (400 * era + y) = 146097 * era + yearStart y := by
    unfold yearStart
    omega
  have hrest : n + 719468 - yearStart (400 * era + year) = day - yearStart year := by
    rw [hstart]
    omega
  refine ⟨400 * era + year, _, liesIn_of_year ?_ ?_, ?_⟩
  · rw [hstart]
    omega
  · rw [add_assoc, hstart]
    omega
  · -- Within an era the years that are divided by 400 do not count.
    have hera0 : yearStart year = 365 * year + year / 4 - year / 100 := by
      unfold yearStart
      omega
    rw [hrest, hera0, ← hyear, hday, hera]
    rfl

/-! ## 3. From dates to days -/

/-- A date of the calendar. -/
structure Date.Valid (date : Date) : Prop where
  month_pos : 1 ≤ date.month
  month_le : date.month ≤ 12
  day_pos : 1 ≤ date.day
  day_le : date.day ≤ daysInMonth date.year date.month

/-- The days of a month of a year from March on. The last one has those that are left of the year. -/
def marchLength (year month : Int) : Int :=
  if month < 11 then monthStart (month + 1) - monthStart month
  else yearStart (year + 1) - yearStart year - monthStart month

theorem liesIn_iff {day year month : Int} (h0 : 0 ≤ month) (h12 : month < 12) :
    LiesIn day year month ↔
      0 ≤ day - yearStart year - monthStart month ∧ day - yearStart year - monthStart month < marchLength year month := by
  have hlength : yearStart year + 365 ≤ yearStart (year + 1) ∧ yearStart (year + 1) ≤ yearStart year + 366 := by
    unfold yearStart
    omega
  have hmonth : month < 11 → monthStart (month + 1) ≤ 337 := by
    unfold monthStart
    omega
  have hlast : ¬ month < 11 → monthStart (month + 1) = 367 := by
    unfold monthStart
    omega
  unfold marchLength
  constructor
  · rintro ⟨-, -, hyear, hle, hlt⟩
    split <;> omega
  · rintro ⟨hle, hlt⟩
    refine ⟨h0, h12, ?_, by omega, ?_⟩ <;> split at hlt <;> omega

theorem daysInMonth_ofMarch {month : Int} (h0 : 0 ≤ month) (h12 : month < 12) (year day : Int) :
    (daysInMonth (Date.ofMarch year month day).year (Date.ofMarch year month day).month : Int) =
      marchLength year month := by
  by_cases h : month < 11
  · rw [marchLength, if_pos h]
    interval_cases month <;> rfl
  · obtain rfl : month = 11 := by omega
    have hstart : monthStart 11 = 337 := by decide
    change (daysInMonth (year + 1) 2 : Int) = yearStart (year + 1) - yearStart year - monthStart 11
    rw [daysInMonth, if_pos rfl, hstart]
    unfold yearStart isLeapYear
    split
    all_goals
      next hleap =>
        simp only [Bool.and_eq_true, Bool.or_eq_true, beq_iff_eq, bne_iff_ne] at hleap
        omega

namespace Date

theorem valid_ofMarch_iff {month : Int} (h0 : 0 ≤ month) (h12 : month < 12) (year day : Int) :
    (ofMarch year month day).Valid ↔ 0 ≤ day ∧ day < marchLength year month := by
  have hlength := daysInMonth_ofMarch h0 h12 year day
  have hday : (ofMarch year month day).day = (day + 1).toNat := rfl
  have hmonth : (ofMarch year month day).month = (if month < 10 then month + 3 else month - 9).toNat := rfl
  constructor
  · rintro ⟨-, -, hpos, hle⟩
    omega
  · rintro ⟨hpos, hlt⟩
    refine ⟨?_, ?_, ?_, ?_⟩
    · rw [hmonth]
      split <;> omega
    · rw [hmonth]
      split <;> omega
    · omega
    · omega

theorem dayNumber_ofMarch {month day : Int} (h0 : 0 ≤ month) (h12 : month < 12) (hday : 0 ≤ day) (year : Int) :
    (ofMarch year month day).dayNumber = yearStart year + monthStart month + day - 719468 := by
  unfold dayNumber ofMarch yearStart monthStart
  simp only []
  split <;> split <;> omega

/-- Every date of the calendar is one of a month from March on. -/
theorem Valid.exists_ofMarch {date : Date} (h : date.Valid) :
    ∃ year month day, 0 ≤ month ∧ month < 12 ∧ date = ofMarch year month day := by
  obtain ⟨year, month, day⟩ := date
  obtain ⟨hpos, hle, hday, -⟩ := h
  simp only [] at hpos hle hday
  by_cases hmonth : month ≤ 2
  · refine ⟨year - 1, month + 9, day - 1, by omega, by omega, ?_⟩
    rw [ofMarch, if_neg (by omega), if_neg (by omega), mk.injEq]
    omega
  · refine ⟨year, month - 3, day - 1, by omega, by omega, ?_⟩
    rw [ofMarch, if_pos (by omega), if_pos (by omega), mk.injEq]
    omega

theorem valid_ofDayNumber (n : Int) : (ofDayNumber n).Valid := by
  obtain ⟨year, month, hlies, hdate⟩ := ofDayNumber_liesIn n
  rw [hdate, valid_ofMarch_iff hlies.month_nonneg hlies.month_lt]
  exact (liesIn_iff hlies.month_nonneg hlies.month_lt).mp hlies

/-- The date of a day has the number of that day. -/
theorem dayNumber_ofDayNumber (n : Int) : (ofDayNumber n).dayNumber = n := by
  obtain ⟨year, month, hlies, hdate⟩ := ofDayNumber_liesIn n
  have hrest := ((liesIn_iff hlies.month_nonneg hlies.month_lt).mp hlies).1
  rw [hdate, dayNumber_ofMarch hlies.month_nonneg hlies.month_lt hrest]
  omega

/-- The number of a date is that of a day in its month, counted from March on. -/
theorem Valid.dayNumber_liesIn {date : Date} (h : date.Valid) :
    ∃ year month, LiesIn (date.dayNumber + 719468) year month ∧
      date = ofMarch year month (date.dayNumber + 719468 - yearStart year - monthStart month) := by
  obtain ⟨year, month, day, h0, h12, rfl⟩ := h.exists_ofMarch
  obtain ⟨hpos, hlt⟩ := (valid_ofMarch_iff h0 h12 year day).mp h
  have hnumber := dayNumber_ofMarch h0 h12 hpos year
  have hrest : (ofMarch year month day).dayNumber + 719468 - yearStart year - monthStart month = day := by omega
  refine ⟨year, month, (liesIn_iff h0 h12).mpr ?_, by rw [hrest]⟩
  rw [hrest]
  exact ⟨hpos, hlt⟩

/-- A date of the calendar is that of the day whose number it has. -/
theorem ofDayNumber_dayNumber {date : Date} (h : date.Valid) : ofDayNumber date.dayNumber = date := by
  obtain ⟨year, month, hlies, hdate⟩ := h.dayNumber_liesIn
  obtain ⟨year', month', hlies', hdate'⟩ := ofDayNumber_liesIn date.dayNumber
  obtain ⟨rfl, rfl⟩ := hlies.unique hlies'
  exact hdate'.trans hdate.symm

/-- The days of a year and of those that follow it start on its first of January. -/
theorem le_year_ofDayNumber_iff (n year : Int) : year ≤ (ofDayNumber n).year ↔ dayNumber ⟨year, 1, 1⟩ ≤ n := by
  obtain ⟨marchYear, month, hlies, hdate⟩ := ofDayNumber_liesIn n
  have hfirst : dayNumber ⟨year, 1, 1⟩ = yearStart (year - 1) + monthStart 10 - 719468 := by
    unfold dayNumber yearStart monthStart
    simp only [Nat.one_le_ofNat, if_true]
    omega
  have hyear : (ofDayNumber n).year = marchYear + (if month < 10 then 0 else 1) := by rw [hdate, ofMarch]
  have hlength : yearStart (year - 1) + 365 ≤ yearStart year := by
    unfold yearStart
    omega
  have hjanuary : monthStart 10 = 306 := by decide
  rw [hyear, hfirst, hjanuary]
  -- January and February are at the end of the year from March on, so the years differ there.
  split
  · next hmonth =>
    have hend := monthStart_le (show month + 1 ≤ 10 by omega)
    have hstart := hlies.year_le
    have hbefore := hlies.lt_month
    constructor <;> intro hle
    · have := yearStart_le (show year ≤ marchYear by omega)
      omega
    · have := yearStart_lt_iff.mp (show yearStart (year - 1) < yearStart marchYear by omega)
      omega
  · next hmonth =>
    have hstart := monthStart_le (show 10 ≤ month by omega)
    have hbegun := hlies.month_le
    have hend := hlies.lt_year
    constructor <;> intro hle
    · have := yearStart_le (show year - 1 ≤ marchYear by omega)
      omega
    · have := yearStart_lt_iff.mp (show yearStart (year - 1) < yearStart (marchYear + 1) by omega)
      omega

end Date

end Stencil.Calendar
