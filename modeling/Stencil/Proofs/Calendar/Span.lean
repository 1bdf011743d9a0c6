import Mathlib.Order.Bounds.Basic
import Stencil.Proofs.Calendar.Months

/-!
Months between two instants.

The months between the dates of two instants are counted first, and one is taken off when so many months lead past the
later instant. A month more than that always leads past it, since it leads into a later month of the calendar, and a
month less never does. So the count is a greatest one although the days are held to the length of the month, where
moving an instant by months is not one to one.
-/

namespace Stencil.Calendar

/-! ## 1. The order of the months -/

/-- The month of a date, counted from the year 0 on. -/
def Date.monthIndex (date : Date) : Int := 12 * date.year + date.month

theorem Date.Valid.monthIndex_bounds {date : Date} (h : date.Valid) :
    12 * date.year < date.monthIndex ∧ date.monthIndex ≤ 12 * date.year + 12 := by
  have hpos := h.month_pos
  have hle := h.month_le
  unfold monthIndex
  omega

/-- A month is that of one year only. -/
theorem Date.Valid.eq_of_monthIndex {a b : Date} (ha : a.Valid) (hb : b.Valid) (h : a.monthIndex = b.monthIndex) :
    a.year = b.year ∧ a.month = b.month := by
  have habounds := ha.monthIndex_bounds
  have hbbounds := hb.monthIndex_bounds
  have hyear : a.year = b.year := by omega
  unfold monthIndex at h
  exact ⟨hyear, by omega⟩

theorem Date.monthIndex_ofMarch {month : Int} (h0 : 0 ≤ month) (h12 : month < 12) (year day : Int) :
    (ofMarch year month day).monthIndex = 12 * year + month + 3 := by
  unfold monthIndex ofMarch
  simp only []
  split <;> omega

/-- Days of an earlier month come first. -/
theorem Date.Valid.dayNumber_lt {a b : Date} (ha : a.Valid) (hb : b.Valid) (h : a.monthIndex < b.monthIndex) :
    a.dayNumber < b.dayNumber := by
  obtain ⟨year, month, hlies, hdate⟩ := ha.dayNumber_liesIn
  obtain ⟨year', month', hlies', hdate'⟩ := hb.dayNumber_liesIn
  rw [hdate, hdate', Date.monthIndex_ofMarch hlies.month_nonneg hlies.month_lt,
    Date.monthIndex_ofMarch hlies'.month_nonneg hlies'.month_lt] at h
  by_contra hle
  have hyear := hlies'.year_mono hlies (by omega)
  by_cases hsame : year = year'
  · subst hsame
    have hmonth := hlies'.month_mono hlies (by omega)
    omega
  · have hfirst := hlies.month_nonneg
    have hlast := hlies'.month_lt
    omega

/-- Days of one month come in their order. -/
theorem Date.dayNumber_sub {a b : Date} (hyear : a.year = b.year) (hmonth : a.month = b.month) :
    a.dayNumber - b.dayNumber = a.day - b.day := by
  unfold dayNumber
  simp only [hyear, hmonth]
  omega

namespace Instant

variable {a b s : Instant} {months : Int}

theorem isBefore_iff : a.isBefore b = true ↔ a.seconds < b.seconds ∨ a.seconds = b.seconds ∧ a.nanos < b.nanos := by
  simp [isBefore]

theorem not_isBefore_iff : a.isBefore b = false ↔ b.seconds < a.seconds ∨ a.seconds = b.seconds ∧ b.nanos ≤ a.nanos := by
  rw [← Bool.not_eq_true, isBefore_iff]
  omega

theorem isBefore_asymm (h : a.isBefore b = true) : b.isBefore a = false := by
  rw [isBefore_iff] at h
  rw [not_isBefore_iff]
  omega

theorem isBefore_irrefl (t : Instant) : t.isBefore t = false := by
  rw [not_isBefore_iff]
  omega

/-- An instant of an earlier month is before one of a later month. -/
theorem isBefore_of_month (h : a.date.monthIndex < b.date.monthIndex) : a.isBefore b = true := by
  have hday := a.valid_date.dayNumber_lt b.valid_date h
  rw [dayNumber_date, dayNumber_date] at hday
  rw [isBefore_iff]
  unfold day daySeconds at hday
  omega

theorem month_le_of_not_isBefore (h : a.isBefore b = false) : b.date.monthIndex ≤ a.date.monthIndex := by
  by_contra hlt
  rw [isBefore_of_month (by omega)] at h
  cases h

theorem not_isBefore_of_month (h : b.date.monthIndex < a.date.monthIndex) : a.isBefore b = false :=
  isBefore_asymm (isBefore_of_month h)

/-! ## 2. Moved instants -/

theorem MovedBy.monthIndex (h : b.MovedBy months s) : s.date.monthIndex = b.date.monthIndex + months := h.month

theorem movedBy_zero (t : Instant) : t.MovedBy 0 t :=
  ⟨(Int.add_zero _).symm, (min_eq_left t.valid_date.day_le).symm, rfl, rfl⟩

/-- An instant that is moved into the month that it came from is not after the one it came from. -/
theorem MovedBy.not_isBefore_back (h : b.MovedBy months s) {back : Instant} (hback : s.MovedBy (-months) back) :
    b.isBefore back = false := by
  have hindex : back.date.monthIndex = b.date.monthIndex := by
    rw [hback.monthIndex, h.monthIndex, Int.add_neg_cancel_right]
  obtain ⟨hyear, hmonth⟩ := back.valid_date.eq_of_monthIndex b.valid_date hindex
  have hday : back.date.day ≤ b.date.day :=
    (hback.day.trans_le (min_le_left _ _)).trans (h.day.trans_le (min_le_left _ _))
  have hnumber := Date.dayNumber_sub hyear hmonth
  have hsecond := hback.secondOfDay.trans h.secondOfDay
  have hnanos := hback.nanos.trans h.nanos
  rw [not_isBefore_iff, b.seconds_eq, back.seconds_eq]
  unfold daySeconds
  omega

/-- The months that do not lead past another instant. -/
def monthsWithin (b a : Instant) : Set Int := {m | 0 ≤ m ∧ ∃ s, b.MovedBy m s ∧ a.isBefore s = false}

/-- No more months stay within an instant than lie between the months of the calendar. -/
theorem le_of_mem_monthsWithin (h : months ∈ monthsWithin b a) : months ≤ a.date.monthIndex - b.date.monthIndex := by
  obtain ⟨-, s, hmoved, hwithin⟩ := h
  have hindex := hmoved.monthIndex
  have hle := month_le_of_not_isBefore hwithin
  omega

/-! ## 3. The count -/

/-- What is counted between two instants, by the instant that lies as many months of the calendar behind the first. -/
theorem monthsUntil_eq (ha : a.inRange = true) (hb : b.inRange = true) (hle : b.date.monthIndex ≤ a.date.monthIndex)
    (hmoved : b.MovedBy (a.date.monthIndex - b.date.monthIndex) s) :
    b.monthsUntil a = a.date.monthIndex - b.date.monthIndex - if a.isBefore s then 1 else 0 := by
  have hcount : 12 * (a.date.year - b.date.year) + a.date.month - b.date.month =
      a.date.monthIndex - b.date.monthIndex := by
    unfold Date.monthIndex
    omega
  -- the months lead into the month of the later instant, which is one that is worked with
  have hrange : s.inRange = true := by
    have hindex : s.date.monthIndex = a.date.monthIndex := by
      rw [hmoved.monthIndex, add_sub_cancel]
    rw [inRange_iff] at ha ⊢
    rwa [(s.valid_date.eq_of_monthIndex a.valid_date hindex).1]
  have hshifted := addMonths?_eq hb hmoved
  rw [hrange, if_pos rfl] at hshifted
  rw [monthsUntil]
  simp only [hcount]
  rw [if_pos (by omega), hshifted]
  simp only
  split <;> omega

/-- The months that are counted up to a later instant are the most that do not lead past it. -/
theorem isGreatest_monthsUntil (ha : a.inRange = true) (hb : b.inRange = true) (h : a.isBefore b = false) :
    IsGreatest (monthsWithin b a) (b.monthsUntil a) := by
  have hle := month_le_of_not_isBefore h
  have hmoved := b.movedBy_moved (a.date.monthIndex - b.date.monthIndex)
  rw [monthsUntil_eq ha hb hle hmoved]
  cases hpast : a.isBefore (b.moved (a.date.monthIndex - b.date.monthIndex)) with
  | false =>
    rw [if_neg Bool.false_ne_true, Int.sub_zero]
    exact ⟨⟨by omega, _, hmoved, hpast⟩, fun m hm => le_of_mem_monthsWithin hm⟩
  | true =>
    rw [if_pos rfl]
    -- no month at all leads nowhere
    have hsome : a.date.monthIndex - b.date.monthIndex ≠ 0 := by
      intro hzero
      rw [hzero, ← movedBy_iff.mp b.movedBy_zero, h] at hpast
      cases hpast
    refine ⟨⟨by omega, _, b.movedBy_moved _, not_isBefore_of_month ?_⟩, fun m hm => ?_⟩
    · rw [(b.movedBy_moved _).monthIndex]
      omega
    · have hmost := le_of_mem_monthsWithin hm
      obtain ⟨-, s, hs, hwithin⟩ := hm
      have hne : m ≠ a.date.monthIndex - b.date.monthIndex := by
        rintro rfl
        rw [hs.unique hmoved, hpast] at hwithin
        cases hwithin
      omega

/-- When the months of the calendar do not lead past the later instant, all of them are counted. -/
theorem monthsUntil_of_mem (ha : a.inRange = true) (hb : b.inRange = true) (h : a.isBefore b = false)
    (hmem : a.date.monthIndex - b.date.monthIndex ∈ monthsWithin b a) :
    b.monthsUntil a = a.date.monthIndex - b.date.monthIndex :=
  (isGreatest_monthsUntil ha hb h).unique ⟨hmem, fun _ hm => le_of_mem_monthsWithin hm⟩

/-- Months that were added are counted, and so are months that were taken away. -/
theorem MovedBy.monthsSince_eq {t moved : Instant} (h : t.MovedBy months moved) (ht : t.inRange = true)
    (hmoved : moved.inRange = true) : moved.monthsSince t = months := by
  have hindex := h.monthIndex
  rw [monthsSince]
  by_cases hsign : 0 ≤ months
  · have hcount : moved.date.monthIndex - t.date.monthIndex = months := by omega
    have hafter : moved.isBefore t = false := by
      by_cases hzero : months = 0
      · subst hzero
        rw [h.unique t.movedBy_zero, isBefore_irrefl]
      · exact not_isBefore_of_month (by omega)
    have hmem : moved.date.monthIndex - t.date.monthIndex ∈ monthsWithin t moved := by
      rw [hcount]
      exact ⟨hsign, moved, h, moved.isBefore_irrefl⟩
    rw [hafter, if_neg Bool.false_ne_true, monthsUntil_of_mem hmoved ht hafter hmem, hcount]
  · have hcount : t.date.monthIndex - moved.date.monthIndex = -months := by omega
    have hbefore : moved.isBefore t = true := isBefore_of_month (by omega)
    -- from the earlier instant the day may be held to a shorter month, but never past the later one
    have hback := h.not_isBefore_back (moved.movedBy_moved (-months))
    have hmem : t.date.monthIndex - moved.date.monthIndex ∈ monthsWithin moved t := by
      rw [hcount]
      exact ⟨by omega, _, moved.movedBy_moved (-months), hback⟩
    rw [hbefore, if_pos rfl, monthsUntil_of_mem ht hmoved (isBefore_asymm hbefore) hmem, hcount, Int.neg_neg]

/-- **The months between two instants are the most that do not lead past the later one.** They are counted up from
the earlier instant, whichever of the two is asked for first, and only the sign depends on that. -/
theorem monthsSince_greatest (ha : a.inRange = true) (hb : b.inRange = true) :
    (a.isBefore b = false → IsGreatest (monthsWithin b a) (a.monthsSince b)) ∧
      (a.isBefore b = true → a.monthsSince b = -b.monthsSince a) := by
  constructor
  · intro h
    rw [monthsSince, h, if_neg Bool.false_ne_true]
    exact isGreatest_monthsUntil ha hb h
  · intro h
    rw [monthsSince, monthsSince, h, isBefore_asymm h, if_pos rfl, if_neg Bool.false_ne_true]

/-- From the last day of January to the thirtieth of March it is one month: two months lead to the day after. -/
theorem monthsSince_greatest_of_january :
    let january : Instant := ⟨1706659200, 0⟩
    let march : Instant := ⟨1711756800, 0⟩
    IsGreatest (monthsWithin january march) 1 ∧ january.monthsSince march = -1 := by
  intro january march
  have hcount : march.monthsSince january = 1 := by decide +kernel
  have hlater := (monthsSince_greatest (a := march) (b := january) (by decide +kernel) (by decide +kernel)).1 (by decide)
  have hearlier := (monthsSince_greatest (a := january) (b := march) (by decide +kernel) (by decide +kernel)).2 (by decide)
  rw [hcount] at hlater hearlier
  exact ⟨hlater, hearlier⟩

end Instant

end Stencil.Calendar
