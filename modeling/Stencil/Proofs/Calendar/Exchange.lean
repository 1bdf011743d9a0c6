import Stencil.Proofs.Calendar.Writing

/-!
Which texts of instants are read.

Every instant has a text in the exchange format, but a year that lies before the year 0 or needs more than four digits
is written with a sign, and the reader of the exchange format wants four digits. No other reader helps out: the texts of
local times all end in a digit (`local?_takesDigit`), and this one ends in a letter. So such a text is not read at all,
while a text with a year of four digits is read in every zone, as an instant with the same text.

That instant need not be the one that was written. What is below the millisecond is lost, and a leap second that does
not come at the end of a minute, as it may by the clocks of a zone that is off by some seconds, is shown as the second
after it (`shown`).
-/

namespace Stencil.Calendar

open Stencil.Text Stencil.Number

/-! ## 1. Local times end in a digit -/

/-- What was taken from the front of a text ends in a digit, and the rest is left. -/
def TakesDigit (cs rest : List Char) : Prop := ∃ before c, c.isDigit = true ∧ cs = before ++ c :: rest

variable {cs rest more : List Char}

theorem TakesDigit.trans (h : TakesDigit cs rest) (hmore : TakesDigit rest more) : TakesDigit cs more := by
  obtain ⟨before, c, -, rfl⟩ := h
  obtain ⟨between, d, hd, rfl⟩ := hmore
  refine ⟨before ++ c :: between, d, hd, ?_⟩
  rw [List.append_assoc, List.cons_append]

/-- What stands before what was taken makes no difference. -/
theorem TakesDigit.behind (h : TakesDigit cs rest) (front : List Char) : TakesDigit (front ++ cs) rest := by
  obtain ⟨before, c, hc, rfl⟩ := h
  exact ⟨front ++ before, c, hc, (List.append_assoc ..).symm⟩

theorem takesDigit_of_digits {ds : List Char} (hsome : ds ≠ []) (hdigits : ∀ c ∈ ds, c.isDigit = true)
    (rest : List Char) : TakesDigit (ds ++ rest) rest := by
  refine ⟨ds.dropLast, ds.getLast hsome, hdigits _ (List.getLast_mem hsome), ?_⟩
  rw [← List.singleton_append, ← List.append_assoc, List.dropLast_concat_getLast]

namespace Reader

theorem number?_takesDigit {least most n : Nat} (hleast : 0 < least) (h : number? least most cs = some (n, rest)) :
    TakesDigit cs rest := by
  unfold number? at h
  simp only [] at h
  split at h
  · cases h
  · next hlength =>
    obtain ⟨m, -, heq⟩ := Option.map_eq_some_iff.mp h
    cases heq
    have hprefix : (cs.take most).takeWhile Char.isDigit <+: cs :=
      (List.takeWhile_prefix _).trans (List.take_prefix most cs)
    have hsome : (cs.take most).takeWhile Char.isDigit ≠ [] := by
      intro hnil
      rw [hnil, List.length_nil] at hlength
      omega
    have htakes := takesDigit_of_digits hsome (fun c hc => List.mem_takeWhile_imp hc)
      (cs.drop ((cs.take most).takeWhile Char.isDigit).length)
    rwa [List.prefix_iff_eq_append.mp hprefix] at htakes

theorem exactly?_eq_some {c : Char} (h : exactly? c cs = some rest) : cs = c :: rest := by
  cases cs with
  | nil => cases h
  | cons d cs =>
    rw [exactly?] at h
    by_cases hc : c = d
    · rw [if_pos hc] at h
      cases h
      rw [hc]
    · rw [if_neg hc] at h
      cases h

theorem fraction?_eq_some {n : Nat} (h : fraction? cs = some (n, rest)) :
    ∃ m, value? ((cs.takeWhile Char.isDigit).take 9) = some m ∧
      n = m * 10 ^ (9 - (cs.takeWhile Char.isDigit).length) ∧ rest = cs.dropWhile Char.isDigit := by
  obtain ⟨m, hm, heq⟩ := Option.map_eq_some_iff.mp (show (value? ((cs.takeWhile Char.isDigit).take 9)).map
    (fun n => (n * 10 ^ (9 - (cs.takeWhile Char.isDigit).length), cs.dropWhile Char.isDigit)) = some (n, rest) from h)
  cases heq
  exact ⟨m, hm, rfl, rfl⟩

theorem fraction?_takesDigit {n : Nat} (h : fraction? cs = some (n, rest)) : TakesDigit cs rest := by
  obtain ⟨m, hm, -, rfl⟩ := fraction?_eq_some h
  have hsome : cs.takeWhile Char.isDigit ≠ [] := by
    intro hnil
    rw [hnil] at hm
    cases hm
  have htakes := takesDigit_of_digits hsome (fun c hc => List.mem_takeWhile_imp hc) (cs.dropWhile Char.isDigit)
  rwa [List.takeWhile_append_dropWhile] at htakes

theorem optionalFraction?_takesDigit {n : Nat} (h : optionalFraction? cs = some (n, rest)) :
    cs = rest ∨ TakesDigit cs rest := by
  unfold optionalFraction? at h
  split at h
  · exact .inr ((fraction?_takesDigit h).behind ['.'])
  · cases h
    exact .inl rfl

theorem loose?_takesDigit {n : Nat} (h : loose? cs = some (n, rest)) : TakesDigit cs rest := by
  have htakes := (number?_takesDigit Nat.one_pos h).behind (cs.takeWhile isBlank)
  rwa [trimStart, List.takeWhile_append_dropWhile] at htakes

theorem year?_takesDigit {year : Int} (h : year? cs = some (year, rest)) : TakesDigit cs rest := by
  have htrim : ∀ trimmed, trimStart cs = trimmed → TakesDigit trimmed rest → TakesDigit cs rest := by
    intro trimmed htrim htakes
    have hbehind := htakes.behind (cs.takeWhile isBlank)
    rwa [← htrim, trimStart, List.takeWhile_append_dropWhile] at hbehind
  unfold year? at h
  split at h
  · next digits hsign =>
    obtain ⟨⟨n, left⟩, hn, heq⟩ := Option.map_eq_some_iff.mp h
    cases heq
    exact htrim _ hsign ((number?_takesDigit Nat.one_pos hn).behind ['-'])
  · next digits hsign =>
    obtain ⟨⟨n, left⟩, hn, heq⟩ := Option.map_eq_some_iff.mp h
    cases heq
    exact htrim _ hsign ((number?_takesDigit Nat.one_pos hn).behind ['+'])
  · obtain ⟨⟨n, left⟩, hn, heq⟩ := Option.map_eq_some_iff.mp h
    cases heq
    exact htrim _ rfl (number?_takesDigit Nat.one_pos hn)

theorem date?_takesDigit {date : Date} (h : date? cs = some (date, rest)) : TakesDigit cs rest := by
  unfold date? at h
  obtain ⟨⟨year, afterYear⟩, hyear, h⟩ := Option.bind_eq_some_iff.mp h
  obtain ⟨beforeMonth, hhyphen, h⟩ := Option.bind_eq_some_iff.mp h
  obtain ⟨⟨month, afterMonth⟩, hmonth, h⟩ := Option.bind_eq_some_iff.mp h
  obtain ⟨beforeDay, hhyphen', h⟩ := Option.bind_eq_some_iff.mp h
  obtain ⟨⟨day, afterDay⟩, hday, h⟩ := Option.bind_eq_some_iff.mp h
  obtain ⟨_, -, heq⟩ := Option.bind_eq_some_iff.mp h
  cases heq
  obtain rfl := exactly?_eq_some hhyphen
  obtain rfl := exactly?_eq_some hhyphen'
  have htakesMonth := (loose?_takesDigit hmonth).behind ['-']
  have htakesDay := (loose?_takesDigit hday).behind ['-']
  exact ((year?_takesDigit hyear).trans htakesMonth).trans htakesDay

theorem seconds?_takesDigit {parts : Nat × Nat} (h : seconds? cs = some parts) : cs = [] ∨ TakesDigit cs [] := by
  unfold seconds? at h
  split at h
  · exact .inl rfl
  · next cs =>
    obtain ⟨⟨second, afterSecond⟩, hsecond, h⟩ := Option.bind_eq_some_iff.mp h
    obtain ⟨⟨nanos, last⟩, hfraction, h⟩ := Option.bind_eq_some_iff.mp h
    obtain ⟨_, hguard, -⟩ := Option.bind_eq_some_iff.mp h
    obtain rfl : last = [] := List.isEmpty_iff.mp ((Option.guard_eq_some' _).mp hguard)
    have htakes := (loose?_takesDigit hsecond).behind [':']
    refine .inr ?_
    rcases optionalFraction?_takesDigit hfraction with rfl | hfraction
    · exact htakes
    · exact htakes.trans hfraction
  · cases h

theorem time?_takesDigit {date : Date} {t : Instant} (h : time? date cs = some t) : TakesDigit cs [] := by
  unfold time? at h
  obtain ⟨⟨hour, afterHour⟩, hhour, h⟩ := Option.bind_eq_some_iff.mp h
  obtain ⟨beforeMinute, hcolon, h⟩ := Option.bind_eq_some_iff.mp h
  obtain ⟨⟨minute, afterMinute⟩, hminute, h⟩ := Option.bind_eq_some_iff.mp h
  obtain ⟨_, hseconds, -⟩ := Option.bind_eq_some_iff.mp h
  obtain rfl := exactly?_eq_some hcolon
  have htakes := (loose?_takesDigit hhour).trans ((loose?_takesDigit hminute).behind [':'])
  rcases seconds?_takesDigit hseconds with rfl | hseconds
  · exact htakes
  · exact htakes.trans hseconds

theorem local?_takesDigit {t : Instant} (h : local? cs = some t) : TakesDigit cs [] := by
  unfold local? at h
  obtain ⟨⟨date, afterDate⟩, hdate, h⟩ := Option.bind_eq_some_iff.mp h
  have htakes := date?_takesDigit hdate
  dsimp only at h
  split at h
  · exact htakes
  · exact htakes.trans ((time?_takesDigit h).behind ['T'])
  · exact htakes.trans (time?_takesDigit h)

end Reader

/-! ## 2. Nanoseconds of what is read -/

/-- No more nanoseconds than a second has that is followed by a leap second. -/
def Instant.FitsSecond (t : Instant) : Prop := t.nanos < 2 * second

namespace Reader

theorem fraction?_lt {n : Nat} (h : fraction? cs = some (n, rest)) : n < second := by
  obtain ⟨m, hm, rfl, -⟩ := fraction?_eq_some h
  have hlt : m < 10 ^ ((cs.takeWhile Char.isDigit).take 9).length := by
    cases hds : (cs.takeWhile Char.isDigit).take 9 with
    | nil =>
      rw [hds] at hm
      cases hm
    | cons c ds =>
      rw [hds] at hm
      simpa using valueFrom?_lt (show valueFrom? 0 (c :: ds) = some m from hm)
  rw [List.length_take] at hlt
  -- the digits that are there and the zeros that are missing are nine together
  have hnine : min 9 (cs.takeWhile Char.isDigit).length + (9 - (cs.takeWhile Char.isDigit).length) = 9 := by omega
  calc m * 10 ^ (9 - (cs.takeWhile Char.isDigit).length)
      < 10 ^ min 9 (cs.takeWhile Char.isDigit).length * 10 ^ (9 - (cs.takeWhile Char.isDigit).length) :=
        Nat.mul_lt_mul_of_pos_right hlt (Nat.pow_pos (by decide))
    _ = second := by rw [← Nat.pow_add, hnine]; rfl

theorem optionalFraction?_lt {n : Nat} (h : optionalFraction? cs = some (n, rest)) : n < second := by
  unfold optionalFraction? at h
  split at h
  · exact fraction?_lt h
  · cases h
    decide

theorem ofParts?_fitsSecond {date : Date} {hour minute sec nanos : Nat} {t : Instant} (hnanos : nanos < second)
    (h : ofParts? date hour minute sec nanos = some t) : t.FitsSecond := by
  unfold ofParts? at h
  split at h
  · cases h
    unfold Instant.FitsSecond
    dsimp only
    split <;> omega
  · cases h

theorem exchange?_fitsSecond {t : Instant} (h : exchange? cs = some t) : t.FitsSecond := by
  obtain ⟨-, date, hour, minute, sec, nanos, fraction, rest, offset, shown, -, -, -, hfraction, -, hshown, rfl⟩ :=
    exchange?_eq_some h
  -- an offset leaves the nanoseconds as they are
  have hfits : shown.FitsSecond := ofParts?_fitsSecond (optionalFraction?_lt hfraction) hshown
  exact hfits

theorem seconds?_lt {parts : Nat × Nat} (h : seconds? cs = some parts) : parts.2 < second := by
  unfold seconds? at h
  split at h
  · cases h
    decide
  · obtain ⟨⟨sec, afterSecond⟩, -, h⟩ := Option.bind_eq_some_iff.mp h
    obtain ⟨⟨nanos, last⟩, hfraction, h⟩ := Option.bind_eq_some_iff.mp h
    obtain ⟨_, -, h⟩ := Option.bind_eq_some_iff.mp h
    cases h
    exact optionalFraction?_lt hfraction
  · cases h

theorem time?_fitsSecond {date : Date} {t : Instant} (h : time? date cs = some t) : t.FitsSecond := by
  unfold time? at h
  obtain ⟨⟨hour, afterHour⟩, -, h⟩ := Option.bind_eq_some_iff.mp h
  obtain ⟨beforeMinute, -, h⟩ := Option.bind_eq_some_iff.mp h
  obtain ⟨⟨minute, afterMinute⟩, -, h⟩ := Option.bind_eq_some_iff.mp h
  obtain ⟨⟨sec, nanos⟩, hseconds, h⟩ := Option.bind_eq_some_iff.mp h
  exact ofParts?_fitsSecond (seconds?_lt hseconds) h

theorem local?_fitsSecond {t : Instant} (h : local? cs = some t) : t.FitsSecond := by
  unfold local? at h
  obtain ⟨⟨date, afterDate⟩, -, h⟩ := Option.bind_eq_some_iff.mp h
  dsimp only at h
  split at h
  · exact ofParts?_fitsSecond (by decide) h
  · exact time?_fitsSecond h
  · exact time?_fitsSecond h

end Reader

namespace Instant

variable {t moved : Instant}

theorem eq_of_inRange? (h : t.inRange? = some moved) : moved = t := by
  unfold inRange? at h
  split at h
  · exact (Option.some.inj h).symm
  · cases h

theorem ofMillis?_fitsSecond {ms : Int} (h : ofMillis? ms = some t) : t.FitsSecond := by
  obtain rfl := eq_of_inRange? h
  unfold FitsSecond second
  dsimp only
  omega

theorem addMonths?_fitsSecond {months : Int} (ht : t.FitsSecond) (h : t.addMonths? months = some moved) :
    moved.FitsSecond := by
  unfold addMonths? at h
  split at h
  · cases h
  · obtain rfl := eq_of_inRange? h
    exact ht

theorem addMillis?_fitsSecond {ms : Int} (ht : t.FitsSecond) (h : t.addMillis? ms = some moved) :
    moved.FitsSecond := by
  unfold FitsSecond at *
  unfold addMillis? at h
  simp only [] at h
  split at h
  · next hstays =>
    -- within the leap second: it is not gone beyond, and a part of a second back does not leave it either
    cases h
    simp only [Bool.and_eq_true, Bool.not_eq_true', Bool.or_eq_false_iff, decide_eq_true_eq, decide_eq_false_iff_not,
      Bool.and_eq_false_iff] at hstays
    dsimp only
    omega
  · obtain rfl := eq_of_inRange? h
    unfold second
    dsimp only
    omega

end Instant

theorem Zone.instantOf?_fitsSecond {zone : Zone} {shown t : Instant} (hshown : shown.FitsSecond)
    (h : zone.instantOf? shown = some t) : t.FitsSecond := by
  obtain ⟨seconds, -, h⟩ := Option.bind_eq_some_iff.mp h
  obtain rfl := Instant.eq_of_inRange? h
  exact hshown

theorem Reader.instant?_fitsSecond {zone : Zone} {text : String} {t : Instant}
    (h : Reader.instant? zone text = some t) : t.FitsSecond := by
  obtain ⟨ms, h⟩ | h | ⟨shown, hshown, h⟩ := instant?_cases h
  · exact Instant.ofMillis?_fitsSecond h
  · exact exchange?_fitsSecond h
  · exact Zone.instantOf?_fitsSecond (local?_fitsSecond hshown) h

/-! ## 3. What a text shows -/

namespace Instant

variable {t other : Instant}

/-- Two instants have one text if they are on one date and show the same time, down to the millisecond. -/
theorem text_eq (hdate : t.date = other.date) (hminute : t.secondOfDay / 60 = other.secondOfDay / 60)
    (hsecond : t.secondOfDay % 60 + t.nanos / second = other.secondOfDay % 60 + other.nanos / second)
    (hmillis : t.nanos % second / 1000000 = other.nanos % second / 1000000) : t.text = other.text := by
  have hhour : t.secondOfDay / 3600 = other.secondOfDay / 3600 := by omega
  have htime : timeText t = timeText other := by
    rw [timeText, timeText, hourText, hourText, hhour, minuteText, minuteText, hminute, secondText, secondText, hsecond]
  rw [text, text, exchangeText_zero, exchangeText_zero, hdate, htime, hmillis]

theorem text_wholeMillis (t : Instant) : t.wholeMillis.text = t.text := by
  refine text_eq rfl rfl ?_ ?_
  · change t.secondOfDay % 60 + t.nanos / 1000000 * 1000000 / second = _
    unfold second
    omega
  · change t.nanos / 1000000 * 1000000 % second / 1000000 = _
    unfold second
    omega

/-- The instant that a text shows for a leap second: within a minute it is the start of the next second. -/
def shown (t : Instant) : Instant :=
  if second ≤ t.nanos ∧ t.secondOfDay % 60 ≠ 59 then ⟨t.seconds + 1, t.nanos - second⟩ else t

/-- Within a minute the next second is on the same day. -/
theorem next_second (h : t.secondOfDay % 60 ≠ 59) (nanos : Nat) :
    date ⟨t.seconds + 1, nanos⟩ = t.date ∧ secondOfDay ⟨t.seconds + 1, nanos⟩ = t.secondOfDay + 1 := by
  have hday : day ⟨t.seconds + 1, nanos⟩ = t.day := by
    unfold day secondOfDay daySeconds at *
    dsimp only
    omega
  refine ⟨by rw [date, date, hday], ?_⟩
  unfold secondOfDay daySeconds at *
  dsimp only
  omega

theorem text_shown (ht : t.FitsSecond) : t.shown.text = t.text := by
  unfold shown
  split
  · next hleap =>
    obtain ⟨hdate, hsecond⟩ := next_second hleap.2 (t.nanos - second)
    unfold FitsSecond at ht
    refine text_eq hdate ?_ ?_ ?_
    · rw [hsecond]
      omega
    · rw [hsecond]
      dsimp only
      unfold second at *
      omega
    · dsimp only
      unfold second at *
      omega
  · rfl

theorem year_shown (t : Instant) : t.shown.date.year = t.date.year := by
  unfold shown
  split
  · next hleap => rw [(next_second hleap.2 _).1]
  · rfl

theorem written_shown (ht : t.FitsSecond) (hyear : 0 ≤ t.date.year ∧ t.date.year < 10000) : t.shown.Written := by
  have hshown := t.year_shown
  refine ⟨by omega, by omega, ?_, ?_⟩
  · unfold shown FitsSecond at *
    split
    · dsimp only
      omega
    · exact ht
  · unfold shown FitsSecond at *
    split
    · dsimp only
      omega
    · next hleap =>
      intro hnanos
      by_contra hminute
      exact hleap ⟨hnanos, hminute⟩

/-! ## 4. Which texts are read -/

/-- With a year of four digits the text is read as an instant with the same text. -/
theorem exists_instant?_text (ht : t.FitsSecond) (hyear : 0 ≤ t.date.year ∧ t.date.year < 10000) (zone : Zone) :
    ∃ read, Reader.instant? zone t.text = some read ∧ read.text = t.text := by
  refine ⟨t.shown.wholeMillis, ?_, ?_⟩
  · rw [← text_shown ht]
    exact instant?_text (written_shown ht hyear) zone
  · rw [text_wholeMillis, text_shown ht]

/-- The first character of a text tells whether the year has four digits. -/
theorem head?_exchangeText (t : Instant) :
    (0 ≤ t.date.year ∧ t.date.year < 10000) ↔ (exchangeText t 0).head?.any Char.isDigit = true := by
  rw [exchangeText_zero, dateText]
  constructor
  · intro hyear
    rw [yearText, if_pos hyear]
    cases hdigits : padded 4 t.date.year.toNat with
    | nil => exact absurd hdigits (padded_ne_nil 4 _)
    | cons c ds => exact isDigit_of_mem_padded (hdigits ▸ List.mem_cons_self)
  · intro hhead
    by_contra hyear
    obtain ⟨sign, hsign, heq⟩ := yearText_of_sign hyear
    rw [heq] at hhead
    have hdigit : sign.isDigit = true := hhead
    rcases hsign with rfl | rfl
    · exact absurd hdigit (by decide)
    · exact absurd hdigit (by decide)

/-- Instants with one text all have a year of four digits, or none of them has. -/
theorem year_iff_of_text_eq {other : Instant} (h : t.text = other.text) :
    (0 ≤ t.date.year ∧ t.date.year < 10000) ↔ (0 ≤ other.date.year ∧ other.date.year < 10000) := by
  rw [head?_exchangeText, head?_exchangeText, String.ofList_injective h]

/-- With a year that starts with a sign the text is not read, in any zone. -/
theorem instant?_text_eq_none (hyear : ¬ (0 ≤ t.date.year ∧ t.date.year < 10000)) (zone : Zone) :
    Reader.instant? zone t.text = none := by
  have hexchange : Reader.exchange? (exchangeText t 0) = none := by
    obtain ⟨sign, hsign, heq⟩ := yearText_of_sign hyear
    have hnumber (cs : List Char) : Reader.number? 4 4 (sign :: cs) = none := by
      rcases hsign with rfl | rfl
      · rfl
      · rfl
    rw [exchangeText_zero, dateText, heq]
    simp only [List.cons_append]
    rw [Reader.exchange?, hnumber]
    rfl
  have hlocal : Reader.local? (exchangeText t 0) = none := by
    rw [Option.eq_none_iff_forall_ne_some]
    intro shown hshown
    -- the text ends in a letter
    obtain ⟨before, c, hc, heq⟩ := Reader.local?_takesDigit hshown
    rw [exchangeText_zero] at heq
    obtain ⟨-, hlast⟩ := List.append_inj' heq rfl
    cases hlast
    exact absurd hc (by decide)
  rw [instant?_eq_of_exchangeText, hexchange, hlocal]
  rfl

end Instant

end Stencil.Calendar
