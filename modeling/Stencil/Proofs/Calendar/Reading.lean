import Mathlib.Data.Option.Basic
import Stencil.Calendar.Reader
import Stencil.Proofs.Calendar.Months
import Stencil.Proofs.Number.Digits

/-!
What is read is in the calendar.

Local times and counts of milliseconds are held to the years that are worked with where they are read. The exchange
format is not: there it follows from the width of the year, four digits, and from the size of an offset, less than a
day.
-/

namespace Stencil.Calendar

open Stencil.Text Stencil.Number

/-! ## 1. Parts of a date -/

/-- The parts of a date make one of the calendar. -/
theorem Date.ofParts?_eq_some {year : Int} {month day : Nat} {date : Date} (h : ofParts? year month day = some date) :
    date.Valid ∧ date.year = year := by
  unfold ofParts? at h
  split at h
  · next hparts =>
    cases h
    obtain ⟨-, -, hmonth, hmonths, hday, hdays⟩ := hparts
    exact ⟨⟨hmonth, hmonths, hday, hdays⟩, rfl⟩
  · cases h

namespace Reader

/-- A number of so many digits. -/
theorem number?_lt {least most n : Nat} {cs rest : List Char} (h : number? least most cs = some (n, rest)) :
    n < 10 ^ most := by
  unfold number? at h
  simp only [] at h
  split at h
  · cases h
  · obtain ⟨m, hm, heq⟩ := Option.map_eq_some_iff.mp h
    cases heq
    have hwidth : ((cs.take most).takeWhile Char.isDigit).length ≤ most :=
      ((List.takeWhile_sublist _).length_le).trans (by rw [List.length_take]; exact Nat.min_le_left ..)
    have hlt : n < 10 ^ ((cs.take most).takeWhile Char.isDigit).length := by
      cases hds : (cs.take most).takeWhile Char.isDigit with
      | nil => rw [hds] at hm; cases hm
      | cons c ds =>
        rw [hds] at hm
        simpa using cappedFrom?_lt (show cappedFrom? (10 ^ 9) 0 (c :: ds) = some n from hm)
    exact hlt.trans_le (Nat.pow_le_pow_right (by decide) hwidth)

theorem offset?_lt {cs : List Char} {offset : Int} (h : offset? cs = some offset) : offset.natAbs < daySeconds := by
  unfold offset? at h
  split at h
  · cases h
    decide
  · cases h
    decide
  · extract_lets signed at h
    have hsigned {negative : Bool} (h : signed negative = some offset) : offset.natAbs < daySeconds := by
      obtain ⟨⟨hours, _⟩, -, h⟩ := Option.bind_eq_some_iff.mp h
      obtain ⟨_, -, h⟩ := Option.bind_eq_some_iff.mp h
      obtain ⟨⟨minutes, _⟩, -, h⟩ := Option.bind_eq_some_iff.mp h
      obtain ⟨_, hguard, h⟩ := Option.bind_eq_some_iff.mp h
      obtain ⟨-, hhours, hminutes⟩ := (Option.guard_eq_some' _).mp hguard
      obtain rfl := Option.some.inj h
      unfold daySeconds
      split <;> omega
    split at h
    · exact hsigned h
    · split at h
      · exact hsigned h
      · cases h
  · cases h

end Reader

/-! ## 2. Instants -/

theorem Instant.inRange_of_inRange? {t t' : Instant} (h : t.inRange? = some t') : t'.inRange = true := by
  unfold inRange? at h
  split at h
  · next hrange =>
    cases h
    exact hrange
  · cases h

namespace Reader

theorem ofParts?_day {date : Date} {hour minute second nanos : Nat} {t : Instant}
    (h : ofParts? date hour minute second nanos = some t) :
    date.dayNumber * daySeconds ≤ t.seconds ∧ t.seconds < (date.dayNumber + 1) * daySeconds := by
  unfold ofParts? at h
  split at h
  · next hparts =>
    cases h
    unfold daySeconds
    simp only []
    omega
  · cases h

/-- What is read in the exchange format: a date with a year of four digits, a time of the day, and an offset. -/
theorem exchange?_eq_some {cs : List Char} {t : Instant} (h : exchange? cs = some t) :
    ∃ (year : Nat) (date : Date) (hour minute second nanos : Nat) (fraction rest : List Char) (offset : Int)
      (shown : Instant), year < 10 ^ 4 ∧ date.Valid ∧ date.year = year ∧
        optionalFraction? fraction = some (nanos, rest) ∧ offset.natAbs < daySeconds ∧
        ofParts? date hour minute second nanos = some shown ∧ t = shown.shift (-offset) := by
  unfold exchange? at h
  obtain ⟨⟨year, _⟩, hyear, h⟩ := Option.bind_eq_some_iff.mp h
  obtain ⟨_, -, h⟩ := Option.bind_eq_some_iff.mp h
  obtain ⟨⟨month, _⟩, -, h⟩ := Option.bind_eq_some_iff.mp h
  obtain ⟨_, -, h⟩ := Option.bind_eq_some_iff.mp h
  obtain ⟨⟨day, _⟩, -, h⟩ := Option.bind_eq_some_iff.mp h
  obtain ⟨_, -, h⟩ := Option.bind_eq_some_iff.mp h
  obtain ⟨_, -, h⟩ := Option.bind_eq_some_iff.mp h
  obtain ⟨⟨hour, _⟩, -, h⟩ := Option.bind_eq_some_iff.mp h
  obtain ⟨_, -, h⟩ := Option.bind_eq_some_iff.mp h
  obtain ⟨⟨minute, _⟩, -, h⟩ := Option.bind_eq_some_iff.mp h
  obtain ⟨_, -, h⟩ := Option.bind_eq_some_iff.mp h
  obtain ⟨⟨second, fraction⟩, -, h⟩ := Option.bind_eq_some_iff.mp h
  obtain ⟨⟨nanos, rest⟩, hfraction, h⟩ := Option.bind_eq_some_iff.mp h
  obtain ⟨offset, hoffset, h⟩ := Option.bind_eq_some_iff.mp h
  obtain ⟨date, hdate, h⟩ := Option.bind_eq_some_iff.mp h
  obtain ⟨shown, hshown, h⟩ := Option.bind_eq_some_iff.mp h
  obtain rfl := Option.some.inj h
  obtain ⟨hvalid, hdateYear⟩ := Date.ofParts?_eq_some hdate
  exact ⟨year, date, hour, minute, second, nanos, fraction, rest, offset, shown, number?_lt hyear, hvalid, hdateYear,
    hfraction, offset?_lt hoffset, hshown, rfl⟩

/-- An instant in the exchange format has a year of four digits, give or take a day. -/
theorem exchange?_inRange {cs : List Char} {t : Instant} (h : exchange? cs = some t) : t.inRange = true := by
  obtain ⟨year, date, hour, minute, second, nanos, -, -, offset, shown, hwidth, hvalid, hdateYear, -, hsize, hshown,
    rfl⟩ := exchange?_eq_some h
  obtain ⟨hstart, hend⟩ := ofParts?_day hshown
  have hafter := Date.le_year_ofDayNumber_iff date.dayNumber 0
  have hbefore := Date.le_year_ofDayNumber_iff date.dayNumber 10000
  rw [Date.ofDayNumber_dayNumber hvalid, hdateYear] at hafter hbefore
  have hzero : Date.dayNumber ⟨0, 1, 1⟩ = -719528 := by decide
  have hlate : Date.dayNumber ⟨10000, 1, 1⟩ = 2932897 := by decide
  have hfirst : Date.dayNumber ⟨firstYear, 1, 1⟩ ≤ -719529 := by decide
  have hlast : 2932898 ≤ Date.dayNumber ⟨lastYear, 12, 31⟩ := by decide
  unfold Instant.inRange Instant.day Instant.shift daySeconds at *
  simp only [Bool.and_eq_true, decide_eq_true_eq]
  omega

/-- What is read: a number of milliseconds, the exchange format, or a local time. -/
theorem instant?_cases {zone : Zone} {text : String} {t : Instant} (h : instant? zone text = some t) :
    (∃ ms, Instant.ofMillis? ms = some t) ∨ exchange? (trim text.toList) = some t ∨
      ∃ shown, local? (trim text.toList) = some shown ∧ zone.instantOf? shown = some t := by
  unfold instant? at h
  simp only [] at h
  split at h
  · exact .inl ⟨_, h⟩
  · rcases Option.or_eq_some_iff.mp h with h | ⟨-, h⟩
    · exact .inr (.inl h)
    · exact .inr (.inr (Option.bind_eq_some_iff.mp h))

/-- Every instant that is read has a year that is worked with. -/
theorem instant?_inRange {zone : Zone} {text : String} {t : Instant} (h : instant? zone text = some t) :
    t.inRange = true := by
  obtain ⟨ms, h⟩ | h | ⟨shown, -, h⟩ := instant?_cases h
  · exact Instant.inRange_of_inRange? h
  · exact exchange?_inRange h
  · obtain ⟨seconds, -, h⟩ := Option.bind_eq_some_iff.mp h
    exact Instant.inRange_of_inRange? h

end Reader

end Stencil.Calendar
