import Stencil.Proofs.Calendar.Exchange
import Stencil.Proofs.Helper.Months

/-!
Dates that are passed on.

A helper answers with the text of a date, and all that the next one has is this text. It is the text of some instant
that fits into a second, also where a leap second was read or a sum came to one, so what
`Stencil.Proofs.Calendar.Exchange` says about such texts is all there is to say. A date with a year of four digits goes
from helper to helper as it is. Any other year is worked with and written, but not read again.
-/

namespace Stencil.Helper.Date

open Stencil.Number Stencil.Calendar

theorem instant?_fitsSecond {zone : Zone} {v : Value} {t : Instant} (h : instant? zone v = some t) : t.FitsSecond := by
  obtain ⟨ms, h⟩ | ⟨text, h⟩ := instant?_cases h
  · exact Instant.ofMillis?_fitsSecond h
  · exact Reader.instant?_fitsSecond h

theorem later?_fitsSecond {t moved : Instant} {amount : Float} {unit : TimeUnit} (ht : t.FitsSecond)
    (h : later? t amount unit = some moved) : moved.FitsSecond := by
  cases unit with
  | month => exact Instant.addMonths?_fitsSecond ht h
  | year => exact Instant.addMonths?_fitsSecond ht h
  | _ => exact Instant.addMillis?_fitsSecond ht h

variable {args : Args} {setting : Setting} {s : String}

theorem parse_of_instant? {t : Instant} (h : instant? (zoneOf setting (anyZone args 1)) args.primary = some t) :
    parse args setting = .string t.text := by
  rw [parse, h]
  rfl

theorem parse_eq_string (h : parse args setting = .string s) : ∃ t : Instant, t.FitsSecond ∧ s = t.text := by
  unfold parse at h
  cases ht : instant? (zoneOf setting (anyZone args 1)) args.primary with
  | none =>
    rw [ht] at h
    cases h
  | some t =>
    rw [ht] at h
    cases h
    exact ⟨t, instant?_fitsSecond ht, rfl⟩

theorem add_eq_string (h : add args setting = .ok (.string s)) : ∃ t : Instant, t.FitsSecond ∧ s = t.text := by
  unfold add at h
  cases hrequire : args.require 3 with
  | error e =>
    rw [hrequire] at h
    cases h
  | ok _ =>
    cases hunit : unit args 2 with
    | error e =>
      rw [hrequire, hunit] at h
      cases h
    | ok asked =>
      rw [hrequire, hunit] at h
      dsimp only [bind, Except.bind] at h
      split at h
      · cases h
      · next t ht =>
        have hfits := instant?_fitsSecond ht
        split at h
        · -- without a finite amount the date stays where it is
          cases h
          exact ⟨t, hfits, rfl⟩
        · split at h
          · next moved hmoved =>
            cases h
            exact ⟨moved, later?_fitsSecond hfits hmoved, rfl⟩
          · cases h

/-- **Which dates are read again.** What parsing or adding answers is the text of an instant. If its year has four
digits, every helper in every zone reads the text as an instant with this very text, so that parsing it gives it back;
otherwise no helper reads it, and parsing it gives null. -/
theorem answers_read_again (h : parse args setting = .string s ∨ add args setting = .ok (.string s)) :
    (∃ t : Instant, s = t.text) ∧ ∀ t : Instant, s = t.text →
      (∀ zone, (instant? zone (.string s)).map Instant.text =
        if 0 ≤ t.date.year ∧ t.date.year < 10000 then some s else none) ∧
      ∀ (again : Args) (other : Setting), again.primary = .string s →
        parse again other = if 0 ≤ t.date.year ∧ t.date.year < 10000 then .string s else .null := by
  obtain ⟨answer, hfits, hs⟩ : ∃ t : Instant, t.FitsSecond ∧ s = t.text := by
    rcases h with h | h
    · exact parse_eq_string h
    · exact add_eq_string h
  refine ⟨⟨answer, hs⟩, ?_⟩
  intro t ht
  have hsame := Instant.year_iff_of_text_eq (ht.symm.trans hs)
  by_cases hyear : 0 ≤ t.date.year ∧ t.date.year < 10000
  · have hread (zone : Zone) : (instant? zone (.string s)).map Instant.text = some s := by
      obtain ⟨read, hread, htext⟩ := Instant.exists_instant?_text hfits (hsame.mp hyear) zone
      rw [instant?, hs, hread, Option.map_some, htext]
    simp only [if_pos hyear]
    refine ⟨hread, ?_⟩
    intro again other hprimary
    rw [parse, hprimary, hread]
    rfl
  · have hread (zone : Zone) : instant? zone (.string s) = none := by
      rw [instant?, hs, Instant.instant?_text_eq_none (mt hsame.mpr hyear)]
    simp only [if_neg hyear]
    refine ⟨?_, ?_⟩
    · intro zone
      rw [hread, Option.map_none]
    · intro again other hprimary
      rw [parse, hprimary, hread]
      rfl

/-- A request for the date that a value stands for. -/
def parseArgs (v : Value) : Args := ⟨"date.parse", [v], []⟩

/-- A leap second goes on as it is, with its milliseconds. -/
theorem answers_read_again_leap_second :
    parse (parseArgs (.string "2017-01-01T00:59:60.1239+01:00")) sampleSetting = .string "2016-12-31T23:59:60.123Z" ∧
      ∀ (again : Args) (other : Setting), again.primary = .string "2016-12-31T23:59:60.123Z" →
        parse again other = .string "2016-12-31T23:59:60.123Z" := by
  have ht : instant? (zoneOf sampleSetting (anyZone (parseArgs (.string "2017-01-01T00:59:60.1239+01:00")) 1))
      (.string "2017-01-01T00:59:60.1239+01:00") = some ⟨1483228799, 1123900000⟩ := by decide +kernel
  have htext : "2016-12-31T23:59:60.123Z" = Instant.text ⟨1483228799, 1123900000⟩ := by decide +kernel
  have hparse : parse (parseArgs (.string "2017-01-01T00:59:60.1239+01:00")) sampleSetting =
      .string (Instant.text ⟨1483228799, 1123900000⟩) := parse_of_instant? ht
  rw [← htext] at hparse
  have hagain := ((answers_read_again (.inl hparse)).2 _ htext).2
  rw [if_pos (by decide)] at hagain
  exact ⟨hparse, hagain⟩

/-- The first instant of the year 10000 is written, but not read again. -/
theorem not_read_again_year_10000 :
    parse (parseArgs (.number 253402300800000)) sampleSetting = .string "+10000-01-01T00:00:00.000Z" ∧
      parse (parseArgs (.string "+10000-01-01T00:00:00.000Z")) sampleSetting = .null := by
  have ht : instant? (zoneOf sampleSetting (anyZone (parseArgs (.number 253402300800000)) 1))
      (.number 253402300800000) = some ⟨253402300800, 0⟩ := by decide +kernel
  have htext : Instant.text ⟨253402300800, 0⟩ = "+10000-01-01T00:00:00.000Z" := by decide +kernel
  have hparse : parse (parseArgs (.number 253402300800000)) sampleSetting =
      .string (Instant.text ⟨253402300800, 0⟩) := parse_of_instant? ht
  rw [htext] at hparse
  refine ⟨hparse, ?_⟩
  have hagain : instant? (zoneOf sampleSetting (anyZone (parseArgs (.string "+10000-01-01T00:00:00.000Z")) 1))
      (.string "+10000-01-01T00:00:00.000Z") = none := by decide +kernel
  exact congrArg (fun read : Option Instant => Value.ofString? (read.map Instant.text)) hagain

end Stencil.Helper.Date
