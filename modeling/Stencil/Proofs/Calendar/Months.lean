import Stencil.Proofs.Calendar.DayNumber

/-!
Moving an instant by months.

What it means is said by a relation that does not mention day numbers: the months between the two dates, the day of
the month, and the time of the day. The calculation goes over the day number and back, which is where the calendar
could be left; that it is not is what the lemmas of the first section are for.
-/

namespace Stencil.Calendar

/-! ## 1. Moved dates -/

theorem daysInMonth_pos (year : Int) (month : Nat) : 1 ≤ daysInMonth year month := by
  unfold daysInMonth
  split
  · split <;> decide
  · split <;> decide

theorem Date.Valid.addMonths {date : Date} (h : date.Valid) (months : Int) : (date.addMonths months).Valid := by
  have hlength := daysInMonth_pos (date.addMonths months).year (date.addMonths months).month
  have hday : (date.addMonths months).day =
    min date.day (daysInMonth (date.addMonths months).year (date.addMonths months).month) := rfl
  have hmonth : (date.addMonths months).month =
    ((12 * date.year + date.month - 1 + months) % 12).toNat + 1 := rfl
  have hpos := h.day_pos
  exact ⟨by omega, by omega, by omega, by omega⟩

/-- The months that lie between a date and the one it is moved to. -/
theorem Date.month_addMonths (date : Date) (months : Int) :
    12 * (date.addMonths months).year + (date.addMonths months).month = 12 * date.year + date.month + months := by
  have hyear : (date.addMonths months).year = (12 * date.year + date.month - 1 + months) / 12 := rfl
  have hmonth : (date.addMonths months).month =
    ((12 * date.year + date.month - 1 + months) % 12).toNat + 1 := rfl
  omega

/-! ## 2. Moved instants -/

namespace Instant

/-- An instant is another one moved by a number of months: the date by so many months of the calendar, the day being
held to the length of the month, and the time of the day not at all. -/
structure MovedBy (t : Instant) (months : Int) (moved : Instant) : Prop where
  month : 12 * moved.date.year + moved.date.month = 12 * t.date.year + t.date.month + months
  day : moved.date.day = min t.date.day (daysInMonth moved.date.year moved.date.month)
  secondOfDay : moved.secondOfDay = t.secondOfDay
  nanos : moved.nanos = t.nanos

theorem valid_date (t : Instant) : t.date.Valid := Date.valid_ofDayNumber t.day

theorem dayNumber_date (t : Instant) : t.date.dayNumber = t.day := Date.dayNumber_ofDayNumber t.day

theorem secondOfDay_lt (t : Instant) : t.secondOfDay < daySeconds := by
  unfold secondOfDay daySeconds
  omega

/-- The seconds of an instant are those of its day and those of its time. -/
theorem seconds_eq (t : Instant) : t.seconds = t.date.dayNumber * daySeconds + t.secondOfDay := by
  rw [dayNumber_date]
  unfold day secondOfDay daySeconds
  omega

/-- An instant is known from its date, the second of the day and the nanoseconds. -/
theorem ext_of_date {a b : Instant} (hdate : a.date = b.date) (hsecond : a.secondOfDay = b.secondOfDay)
    (hnanos : a.nanos = b.nanos) : a = b := by
  have hseconds : a.seconds = b.seconds := by rw [a.seconds_eq, b.seconds_eq, hdate, hsecond]
  exact Instant.mk.injEq .. ▸ ⟨hseconds, hnanos⟩

theorem MovedBy.unique {t a b : Instant} {months : Int} (ha : t.MovedBy months a) (hb : t.MovedBy months b) : a = b := by
  have hmonth := ha.month.trans hb.month.symm
  have ha1 := a.valid_date.month_pos
  have ha12 := a.valid_date.month_le
  have hb1 := b.valid_date.month_pos
  have hb12 := b.valid_date.month_le
  have hyear : a.date.year = b.date.year := by omega
  have hmonth : a.date.month = b.date.month := by omega
  have hday : a.date.day = b.date.day := by rw [ha.day, hb.day, hyear, hmonth]
  refine ext_of_date ?_ (ha.secondOfDay.trans hb.secondOfDay.symm) (ha.nanos.trans hb.nanos.symm)
  rw [← show (⟨a.date.year, a.date.month, a.date.day⟩ : Date) = a.date from rfl, hyear, hmonth, hday]

/-- The instant of the moved date, at the same time of the day. -/
def moved (t : Instant) (months : Int) : Instant :=
  ⟨(t.date.addMonths months).dayNumber * daySeconds + t.secondOfDay, t.nanos⟩

theorem movedBy_moved (t : Instant) (months : Int) : t.MovedBy months (t.moved months) := by
  have hlt := t.secondOfDay_lt
  have hseconds : (t.moved months).seconds = (t.date.addMonths months).dayNumber * daySeconds + t.secondOfDay := rfl
  have hday : (t.moved months).day = (t.date.addMonths months).dayNumber := by
    unfold day daySeconds at *
    omega
  have hdate : (t.moved months).date = t.date.addMonths months := by
    rw [date, hday, Date.ofDayNumber_dayNumber (t.valid_date.addMonths months)]
  refine ⟨?_, ?_, ?_, rfl⟩
  · rw [hdate, Date.month_addMonths]
  · rw [hdate]
    rfl
  · rw [secondOfDay, hseconds]
    unfold daySeconds at *
    omega

/-- An instant has exactly one that it is moved to. -/
theorem movedBy_iff {t other : Instant} {months : Int} : t.MovedBy months other ↔ other = t.moved months :=
  ⟨fun h => h.unique (t.movedBy_moved months), fun h => h ▸ t.movedBy_moved months⟩

/-! ## 3. The range of years -/

theorem inRange_iff (t : Instant) : t.inRange = true ↔ firstYear ≤ t.date.year ∧ t.date.year ≤ lastYear := by
  have hlast : Date.dayNumber ⟨lastYear, 12, 31⟩ = Date.dayNumber ⟨lastYear + 1, 1, 1⟩ - 1 := by decide
  have hfirst := Date.le_year_ofDayNumber_iff t.day firstYear
  have hafter := Date.le_year_ofDayNumber_iff t.day (lastYear + 1)
  simp only [inRange, hlast, date, Bool.and_eq_true, decide_eq_true_eq]
  omega

/-- The years that are worked with are not so many that 2³¹ months could lie between two of them. -/
theorem MovedBy.not_inRange {t moved : Instant} {months : Int} (h : t.MovedBy months moved) (ht : t.inRange = true)
    (hfar : 2 ^ 31 ≤ months.natAbs) : moved.inRange = false := by
  rw [Bool.eq_false_iff, ne_eq, inRange_iff]
  rw [inRange_iff] at ht
  have hmonth := h.month
  have := t.valid_date.month_pos
  have := t.valid_date.month_le
  have := moved.valid_date.month_pos
  have := moved.valid_date.month_le
  unfold firstYear lastYear at *
  omega

/-- Moving an instant by months gives the moved instant when its year is one that is worked with, and nothing
otherwise, however many months there are. -/
theorem addMonths?_eq {t moved : Instant} {months : Int} (ht : t.inRange = true) (h : t.MovedBy months moved) :
    t.addMonths? months = if moved.inRange then some moved else none := by
  rw [addMonths?]
  split
  · next hfar => rw [h.not_inRange ht hfar, if_neg Bool.false_ne_true]
  · rw [movedBy_iff.mp h]
    rfl

end Instant

end Stencil.Calendar
