import Mathlib.Data.List.TakeWhile
import Stencil.Calendar.Pattern
import Stencil.Proofs.Calendar.Reading
import Stencil.Proofs.Number.Grammar

/-!
Reading an instant that was written.

Between helpers a date is text in the exchange format of universal time, and what the next helper goes by is what it
reads there. That is the instant itself, down to the millisecond, in every zone, as long as the year has four digits.
Of a leap second the text shows the second sixty; there is nothing else in it that could tell, so it must be one that
comes at the end of a minute.
-/

namespace Stencil.Calendar

open Stencil.Text Stencil.Number

/-! ## 1. Numbers of a fixed width -/

namespace Reader

variable {w n : Nat}

/-- A number that was written with a fixed width is read, whatever follows it. -/
theorem number?_padded (hw : 0 < w) (hcap : w ≤ 9) (h : n < 10 ^ w) (rest : List Char) :
    number? w w (padded w n ++ rest) = some (n, rest) := by
  have hlength := length_padded hw h
  have htake : (padded w n ++ rest).take w = padded w n := List.take_left' hlength
  have hdigits : (padded w n).takeWhile Char.isDigit = padded w n :=
    List.takeWhile_eq_self_iff.mpr fun _ hc => isDigit_of_mem_padded hc
  rw [number?, htake, hdigits, if_neg (by omega), capped?_padded hw hcap h, hlength, List.drop_left' hlength]
  rfl

/-- Nine digits say how many nanoseconds there are, and fewer digits stand for as many with zeros behind them. -/
theorem fraction?_padded (hw : 0 < w) (hcap : w ≤ 9) (h : n < 10 ^ w) {c : Char} (hc : c.isDigit = false)
    (rest : List Char) : fraction? (padded w n ++ c :: rest) = some (n * 10 ^ (9 - w), c :: rest) := by
  have hlength := length_padded hw h
  have hspan : spanDigits (padded w n ++ c :: rest) = (padded w n, c :: rest) :=
    spanDigits_append (fun _ hd => isDigit_of_mem_padded hd) fun d hd => by rwa [← Option.mem_some.mp hd]
  rw [fraction?, hspan]
  simp only
  rw [List.take_of_length_le (by omega), value?_padded, hlength]
  rfl

end Reader

/-! ## 2. Text that is no number -/

/-- A text with the letter of the exchange format in it does not look like a number. -/
theorem looksNumeric_eq_false {cs : List Char} (h : 'T' ∈ cs) : looksNumeric cs = false := by
  rw [Bool.eq_false_iff]
  intro hnumeric
  exact absurd ((looksNumeric_iff.mp hnumeric).chars 'T' h) (by decide)

/-! ## 3. Instants -/

namespace Instant

/-- The exchange format can say which instant this is, to the millisecond. -/
structure Written (t : Instant) : Prop where
  year_nonneg : 0 ≤ t.date.year
  year_lt : t.date.year < 10000
  nanos_lt : t.nanos < 2 * second
  leap : second ≤ t.nanos → t.secondOfDay % 60 = 59

/-- The instant at the start of the millisecond. -/
def wholeMillis (t : Instant) : Instant := ⟨t.seconds, t.nanos / 1000000 * 1000000⟩

variable {t : Instant}

theorem Written.of_nanos_lt (hyear : 0 ≤ t.date.year ∧ t.date.year < 10000) (hnanos : t.nanos < second) : t.Written :=
  ⟨hyear.1, hyear.2, by omega, fun hleap => absurd hnanos (Nat.not_lt.mpr hleap)⟩

theorem wholeMillis_eq (h : 1000000 ∣ t.nanos) : t.wholeMillis = t := by
  rw [wholeMillis, Nat.div_mul_cancel h]

theorem shift_zero (t : Instant) : t.shift 0 = t := by
  rw [shift, Int.add_zero]

theorem exchangeText_zero (t : Instant) : exchangeText t 0 =
    dateText t.date ++ 'T' :: timeText t ++ '.' :: padded 3 (t.nanos % second / 1000000) ++ ['Z'] := by
  rw [exchangeText, shift_zero, offsetText, if_pos rfl]

/-- A year that is not one of four digits starts with a sign. -/
theorem yearText_of_sign {year : Int} (hyear : ¬ (0 ≤ year ∧ year < 10000)) :
    ∃ sign, (sign = '-' ∨ sign = '+') ∧ yearText year = sign :: padded 4 year.natAbs := by
  unfold yearText
  rw [if_neg hyear]
  by_cases hneg : year < 0
  · rw [if_pos hneg]
    exact ⟨'-', .inl rfl, rfl⟩
  · rw [if_neg hneg]
    exact ⟨'+', .inr rfl, rfl⟩

theorem not_blank_exchangeText (t : Instant) : ∀ c ∈ exchangeText t 0, isBlank c = false := by
  have hpadded (w n : Nat) : ∀ c ∈ padded w n, isBlank c = false :=
    fun _ hc => isBlank_of_isDigit (isDigit_of_mem_padded hc)
  have hyear : ∀ c ∈ yearText t.date.year, isBlank c = false := by
    by_cases hdigits : 0 ≤ t.date.year ∧ t.date.year < 10000
    · rw [yearText, if_pos hdigits]
      exact hpadded 4 _
    · obtain ⟨sign, rfl | rfl, heq⟩ := yearText_of_sign hdigits
      · rw [heq]
        exact List.forall_mem_cons.mpr ⟨by decide, hpadded 4 _⟩
      · rw [heq]
        exact List.forall_mem_cons.mpr ⟨by decide, hpadded 4 _⟩
  rw [exchangeText_zero, dateText, timeText, hourText, minuteText, secondText]
  simp only [List.forall_mem_append, List.forall_mem_cons]
  exact ⟨⟨⟨⟨⟨hyear, by decide, hpadded 2 _⟩, by decide, hpadded 2 _⟩, by decide, ⟨hpadded 2 _, by decide, hpadded 2 _⟩,
    by decide, hpadded 2 _⟩, by decide, hpadded 3 _⟩, by decide, List.forall_mem_nil _⟩

/-- The text of an instant, part by part. -/
theorem exchangeText_eq (h : t.Written) : exchangeText t 0 =
    padded 4 t.date.year.toNat ++ '-' :: (padded 2 t.date.month ++ '-' :: (padded 2 t.date.day ++ 'T' ::
      (padded 2 (t.secondOfDay / 3600) ++ ':' :: (padded 2 (t.secondOfDay / 60 % 60) ++ ':' ::
        (padded 2 (t.secondOfDay % 60 + t.nanos / second) ++ '.' ::
          (padded 3 (t.nanos % second / 1000000) ++ ['Z'])))))) := by
  rw [exchangeText_zero, dateText, yearText, if_pos ⟨h.year_nonneg, h.year_lt⟩, timeText, hourText, minuteText,
    secondText]
  simp only [List.append_assoc, List.cons_append]

/-- The date that is written is that of the instant. -/
theorem ofParts?_date (h : t.Written) :
    Date.ofParts? (t.date.year.toNat : Int) t.date.month t.date.day = some t.date := by
  have hyear := h.year_nonneg
  have hlate := h.year_lt
  obtain ⟨hmonth, hmonths, hday, hdays⟩ := t.valid_date
  rw [Int.toNat_of_nonneg hyear, Date.ofParts?, if_pos]
  unfold firstYear lastYear
  omega

/-- The time that is written is that of the instant. -/
theorem ofParts?_time (h : t.Written) :
    Reader.ofParts? t.date (t.secondOfDay / 3600) (t.secondOfDay / 60 % 60) (t.secondOfDay % 60 + t.nanos / second)
      (t.nanos % second / 1000000 * 10 ^ (9 - 3)) = some t.wholeMillis := by
  have hlt : t.secondOfDay < 86400 := t.secondOfDay_lt
  have hnanos := h.nanos_lt
  have hleap := h.leap
  rw [Reader.ofParts?, if_pos (by unfold second at *; omega), wholeMillis]
  refine congrArg some (Instant.mk.injEq .. ▸ ⟨?_, ?_⟩)
  · rw [t.seconds_eq]
    unfold second at *
    omega
  · unfold second at *
    split <;> omega

/-- No part of the date needs more digits than it has. -/
theorem date_lt (h : t.Written) : t.date.year.toNat < 10 ^ 4 ∧ t.date.month < 10 ^ 2 ∧ t.date.day < 10 ^ 2 := by
  have hyear := h.year_lt
  have hmonth := t.valid_date.month_le
  have hday := t.valid_date.day_le
  have hlength : daysInMonth t.date.year t.date.month ≤ 31 := by
    unfold daysInMonth
    split <;> split <;> decide
  exact ⟨by omega, by omega, by omega⟩

/-- Nor does any part of the time. -/
theorem time_lt (h : t.Written) : t.secondOfDay / 3600 < 10 ^ 2 ∧ t.secondOfDay / 60 % 60 < 10 ^ 2 ∧
    t.secondOfDay % 60 + t.nanos / second < 10 ^ 2 ∧ t.nanos % second / 1000000 < 10 ^ 3 := by
  have hlt : t.secondOfDay < 86400 := t.secondOfDay_lt
  have hnanos := h.nanos_lt
  unfold second at *
  exact ⟨by omega, by omega, by omega, by omega⟩

/-- What is written in the exchange format is read in it, part by part. -/
theorem exchange?_exchangeText (h : t.Written) : Reader.exchange? (exchangeText t 0) = some t.wholeMillis := by
  obtain ⟨hyear, hmonth, hday⟩ := date_lt h
  obtain ⟨hhour, hminute, hsecond, hmillis⟩ := time_lt h
  rw [exchangeText_eq h, Reader.exchange?]
  -- year, month and day, with hyphens between them
  refine Option.bind_eq_some_iff.mpr ⟨_, Reader.number?_padded (by decide) (by decide) hyear _, ?_⟩
  refine Option.bind_eq_some_iff.mpr ⟨_, rfl, ?_⟩
  refine Option.bind_eq_some_iff.mpr ⟨_, Reader.number?_padded (by decide) (by decide) hmonth _, ?_⟩
  refine Option.bind_eq_some_iff.mpr ⟨_, rfl, ?_⟩
  refine Option.bind_eq_some_iff.mpr ⟨_, Reader.number?_padded (by decide) (by decide) hday _, ?_⟩
  -- the letter before the time
  refine Option.bind_eq_some_iff.mpr ⟨'T', rfl, ?_⟩
  refine Option.bind_eq_some_iff.mpr ⟨(), rfl, ?_⟩
  -- hour, minute and second, with colons between them
  refine Option.bind_eq_some_iff.mpr ⟨_, Reader.number?_padded (by decide) (by decide) hhour _, ?_⟩
  refine Option.bind_eq_some_iff.mpr ⟨_, rfl, ?_⟩
  refine Option.bind_eq_some_iff.mpr ⟨_, Reader.number?_padded (by decide) (by decide) hminute _, ?_⟩
  refine Option.bind_eq_some_iff.mpr ⟨_, rfl, ?_⟩
  refine Option.bind_eq_some_iff.mpr ⟨_, Reader.number?_padded (by decide) (by decide) hsecond _, ?_⟩
  -- the milliseconds behind a point, and no offset
  refine Option.bind_eq_some_iff.mpr ⟨_, Reader.fraction?_padded (by decide) (by decide) hmillis (by decide) [], ?_⟩
  refine Option.bind_eq_some_iff.mpr ⟨0, rfl, ?_⟩
  -- the instant of these parts
  refine Option.bind_eq_some_iff.mpr ⟨_, ofParts?_date h, ?_⟩
  refine Option.bind_eq_some_iff.mpr ⟨_, ofParts?_time h, ?_⟩
  exact congrArg some t.wholeMillis.shift_zero

theorem instant?_eq_of_exchangeText (t : Instant) (zone : Zone) : Reader.instant? zone t.text =
    (Reader.exchange? (exchangeText t 0)).or ((Reader.local? (exchangeText t 0)).bind zone.instantOf?) := by
  have hletter : 'T' ∈ exchangeText t 0 := by
    rw [exchangeText_zero]
    simp
  rw [Reader.instant?, text, String.toList_ofList, trim_of_not_blank (not_blank_exchangeText t)]
  simp only [looksNumeric_eq_false hletter, Bool.false_eq_true, if_false]

/-- The text of an instant is read as that instant, without what is below the millisecond, whatever zone local times
are of. -/
theorem instant?_text (h : t.Written) (zone : Zone) : Reader.instant? zone t.text = some t.wholeMillis := by
  rw [instant?_eq_of_exchangeText, exchange?_exchangeText h, Option.some_or]

end Instant

end Stencil.Calendar
