import Mathlib.Tactic.Linarith
import Mathlib.Tactic.Ring
import VmProvisioning.Proofs.Number
import VmProvisioning.Timestamp

/-!
# Timestamps read back

The date of a day leads back to the day, and what is written for a moment is read as that moment.
So the normal form of a timestamp is a timestamp, and its own normal form.

## Main definitions

* `IsDayOfEra`: a day of four hundred years by century, cycle of four years, year and day
* `Moment.IsValid`: a moment that has a timestamp

## Main results

* `dayOfDate_dateOfDay`: the day of the date of a day
* `read?_write`: a moment is read back
* `normalize?_of_eq_some`: normal forms stay as they are
-/

namespace VmProvisioning.Timestamp

/-! ## Dates -/

/-- A day of four hundred years from March on: in the first three centuries the last cycle of four
years has no leap day. -/
structure IsDayOfEra (century cycle year day dayOfEra : Int) : Prop where
  isCentury : 0 ≤ century ∧ century ≤ 3
  isCycle : 0 ≤ cycle ∧ cycle ≤ 24
  isYear : 0 ≤ year ∧ year ≤ 3
  isDay : 0 ≤ day ∧ day ≤ 365
  common : year ≤ 2 → day ≤ 364
  secular : cycle = 24 → year = 3 → century ≤ 2 → day ≤ 364
  total : dayOfEra = 36524 * century + 1461 * cycle + 365 * year + day

theorem exists_isDayOfEra {dayOfEra : Int} (hnonneg : 0 ≤ dayOfEra) (hlt : dayOfEra < 146097) :
    ∃ century cycle year day, IsDayOfEra century cycle year day dayOfEra := by
  -- The last day of the era and the leap days belong to no year of 365 days.
  by_cases hlast : dayOfEra = 146096
  · exact ⟨3, 24, 3, 365, by constructor <;> omega⟩
  by_cases hleap : dayOfEra % 36524 % 1461 = 1460
  · exact ⟨dayOfEra / 36524, dayOfEra % 36524 / 1461, 3, 365, by constructor <;> omega⟩
  · exact ⟨dayOfEra / 36524, dayOfEra % 36524 / 1461, dayOfEra % 36524 % 1461 / 365,
      dayOfEra % 36524 % 1461 % 365, by constructor <;> omega⟩

/-- One day of each year but the leap days makes up for them, so that a single division gives the
year of a day. -/
theorem IsDayOfEra.year_eq {century cycle year day dayOfEra : Int}
    (h : IsDayOfEra century cycle year day dayOfEra) :
    (dayOfEra - dayOfEra / 1460 + dayOfEra / 36524 - dayOfEra / 146096) / 365 =
      100 * century + 4 * cycle + year := by
  obtain ⟨hcentury, hcycle, hyear, hday, hcommon, hsecular, htotal⟩ := h
  by_cases hlast : dayOfEra = 146096
  · have : century = 3 ∧ cycle = 24 ∧ year = 3 := by omega
    omega
  · have hcenturies : dayOfEra / 36524 = century := by omega
    have hera : dayOfEra / 146096 = 0 := by omega
    -- Beyond the centuries and the cycles one leap day is counted at most.
    obtain ⟨leap, hleap⟩ : ∃ leap, leap = (24 * century + cycle + 365 * year + day) / 1460 :=
      ⟨_, rfl⟩
    have hcycles : dayOfEra / 1460 = 25 * century + cycle + leap := by omega
    have hrest : 0 ≤ day - leap ∧ day - leap ≤ 364 := by
      have : year = 3 ∨ day ≤ 364 := by omega
      have : 0 ≤ leap ∧ leap ≤ 1 := by omega
      have : day = 0 → leap = 0 := by omega
      have : day = 365 → year = 3 → leap = 1 := by omega
      omega
    rw [hcenturies, hera, hcycles]
    clear hcenturies hera hcycles hleap
    omega

theorem IsDayOfEra.year_bounds {century cycle year day dayOfEra : Int}
    (h : IsDayOfEra century cycle year day dayOfEra) :
    0 ≤ 100 * century + 4 * cycle + year ∧ 100 * century + 4 * cycle + year ≤ 399 := by
  obtain ⟨hcentury, hcycle, hyear, -, -, -, -⟩ := h
  omega

/-- The days before a year of four hundred. -/
theorem IsDayOfEra.day_eq {century cycle year day dayOfEra : Int}
    (h : IsDayOfEra century cycle year day dayOfEra) :
    dayOfEra - (365 * (100 * century + 4 * cycle + year) +
      (100 * century + 4 * cycle + year) / 4 - (100 * century + 4 * cycle + year) / 100) =
      day := by
  obtain ⟨hcentury, hcycle, hyear, -, -, -, htotal⟩ := h
  have hcycles : (100 * century + 4 * cycle + year) / 4 = 25 * century + cycle := by omega
  have hcenturies : (100 * century + 4 * cycle + year) / 100 = century := by omega
  rw [hcycles, hcenturies, htotal]
  omega

/-- A day of a year from March on falls into a month, and is one of its days. -/
theorem month_bounds {day month : Int} (hday : 0 ≤ day ∧ day ≤ 365)
    (hmonth : month = (5 * day + 2) / 153) :
    (0 ≤ month ∧ month ≤ 11) ∧ 0 ≤ day - (153 * month + 2) / 5 ∧
      day - (153 * month + 2) / 5 ≤ 30 := by
  omega

/-- The months from March on, counted from January. -/
theorem month_eq {month : Int} (h : 0 ≤ month ∧ month ≤ 11) :
    ((if month < 10 then month + 3 else month - 9) + 9) % 12 = month := by
  split <;> omega

/-- The days of a date, by the year from March on. -/
theorem dayOfDate_eq {era year month day : Int} (hyear : 0 ≤ year ∧ year ≤ 399)
    (hmonth : 0 ≤ month ∧ month ≤ 11) (start : Int)
    (hstart : start = if month < 10 then month + 3 else month - 9) :
    dayOfDate (if start ≤ 2 then year + era * 400 + 1 else year + era * 400) start day =
      146097 * era + (365 * year + year / 4 - year / 100) + (153 * month + 2) / 5 + day - 1 := by
  have hshifted : (if start ≤ 2 then
      (if start ≤ 2 then year + era * 400 + 1 else year + era * 400) - 1
      else if start ≤ 2 then year + era * 400 + 1 else year + era * 400) = year + era * 400 := by
    split <;> omega
  have hfours : (year + era * 400) / 4 = year / 4 + era * 100 := by omega
  have hcenturies : (year + era * 400) / 100 = year / 100 + era * 4 := by omega
  have heras : (year + era * 400) / 400 = era := by omega
  have hmonths : (start + 9) % 12 = month := hstart ▸ month_eq hmonth
  simp only [dayOfDate, hshifted, hmonths,
    Int.fdiv_eq_ediv_of_nonneg _ (show (0 : Int) ≤ 4 by decide),
    Int.fdiv_eq_ediv_of_nonneg _ (show (0 : Int) ≤ 100 by decide),
    Int.fdiv_eq_ediv_of_nonneg _ (show (0 : Int) ≤ 400 by decide), hfours, hcenturies, heras]
  ring

/-- **A day has a date**, and the day of its date is the day. -/
theorem exists_dateOfDay (count : Int) :
    ∃ year month day, dateOfDay count = (year, month, day) ∧ 1 ≤ month ∧ month ≤ 12 ∧
      1 ≤ day ∧ day ≤ 31 ∧ dayOfDate year month day = count := by
  have hnonneg : 0 ≤ count % 146097 := Int.emod_nonneg _ (by decide)
  have hlt : count % 146097 < 146097 := Int.emod_lt_of_pos _ (by decide)
  have hcount : count % 146097 + 146097 * (count / 146097) = count := Int.emod_add_mul_ediv ..
  obtain ⟨century, cycle, year, day, h⟩ := exists_isDayOfEra hnonneg hlt
  have hyear := h.year_eq
  have hday := h.day_eq
  have hyears := h.year_bounds
  obtain ⟨hmonths, hrest, hrest'⟩ := month_bounds h.isDay rfl
  -- How the year of the era was found does not matter from here on.
  generalize 100 * century + 4 * cycle + year = yearOfEra at hyear hday hyears
  refine ⟨_, _, _, rfl, ?_⟩
  simp only [daysPerEra, Int.fdiv_eq_ediv_of_nonneg _ (show (0 : Int) ≤ 146097 by decide),
    Int.fmod_eq_emod_of_nonneg _ (show (0 : Int) ≤ 146097 by decide), hyear, hday]
  rw [dayOfDate_eq hyears hmonths _ rfl]
  generalize (5 * day + 2) / 153 = month at *
  refine ⟨?_, ?_, ?_, ?_, ?_⟩
  · clear hcount hday hrest hrest'
    split <;> omega
  · clear hcount hday hrest hrest'
    split <;> omega
  · linarith
  · linarith
  · linarith

/-! ## Numbers -/

theorem padded_ne_nil {width value : Nat} : padded width value ≠ [] := by
  simp [padded, Nat.toDigits_ne_nil]

theorem isDigit_of_mem_padded {width value : Nat} {c : Char} (h : c ∈ padded width value) :
    c.isDigit = true := by
  rcases List.mem_append.mp h with hzero | hdigit
  · rw [List.eq_of_mem_replicate hzero]
    rfl
  · exact isDigit_of_mem_toDigits hdigit

theorem length_padded {width value : Nat} (hwidth : 0 < width) (h : value < Nat.pow 10 width) :
    (padded width value).length = width := by
  have hle : (Nat.toDigits 10 value).length ≤ width :=
    (Nat.length_toDigits_le_iff (by decide) hwidth).mpr h
  simp only [padded, List.length_append, List.length_replicate]
  omega

/-- A number is read off its digits, with any zeros before them. -/
theorem ofDigits_padded (width value : Nat) : Decimal.ofDigits (padded width value) = value := by
  rw [Decimal.ofDigits_eq_ofDigitChars, padded, Nat.ofDigitChars_append,
    Nat.ofDigitChars_replicate_zero, Nat.mul_zero, Nat.ofDigitChars_ten_toDigits]

/-- Digits are no blanks. -/
theorem skipBlanks_padded {width value : Nat} {rest : List Char} :
    skipBlanks (padded width value ++ rest) = padded width value ++ rest := by
  cases hdigits : padded width value with
  | nil => exact absurd hdigits padded_ne_nil
  | cons c digits =>
    have hc : c.isDigit = true := isDigit_of_mem_padded (hdigits ▸ List.mem_cons_self)
    simp [skipBlanks, isBlank_of_isDigit hc]

theorem readDigits?_of_takeWhile {most : Nat} {digits rest : List Char} (hne : digits ≠ [])
    (h : ((digits ++ rest).take most).takeWhile Char.isDigit = digits) :
    readDigits? most (digits ++ rest) = some ((Decimal.ofDigits digits : Int), rest) := by
  simp [readDigits?, h, hne]

/-- A number of the greatest width that is read is read back. -/
theorem readDigits?_padded {width value : Nat} {rest : List Char} (hwidth : 0 < width)
    (h : value < Nat.pow 10 width) :
    readDigits? width (padded width value ++ rest) = some ((value : Int), rest) := by
  rw [readDigits?_of_takeWhile padded_ne_nil, ofDigits_padded]
  rw [List.take_left' (length_padded hwidth h), ← List.append_nil (padded width value),
    List.takeWhile_append_of_pos fun c hc => isDigit_of_mem_padded hc, List.takeWhile_nil]

/-- A number of any width is read back up to the end of its digits. -/
theorem readDigits?_padded_of_not_digit {width value : Nat} {c : Char} {rest : List Char}
    (hc : c.isDigit = false) :
    readDigits? (padded width value ++ c :: rest).length (padded width value ++ c :: rest) =
      some ((value : Int), c :: rest) := by
  rw [readDigits?_of_takeWhile padded_ne_nil, ofDigits_padded]
  rw [List.take_length, List.takeWhile_append_of_pos fun c hc => isDigit_of_mem_padded hc]
  simp [hc]

/-! ## Parts of a timestamp -/

/-- A number of two digits is read back. -/
theorem readTwo?_padded {value : Nat} {rest : List Char} (h : value < 100) :
    readTwo? (padded 2 value ++ rest) = some ((value : Int), rest) := by
  rw [readTwo?, skipBlanks_padded, readDigits?_padded (by decide) h]

theorem readAfter?_padded {separator : Char} {value : Nat} {rest : List Char}
    (hseparator : Text.isBlank separator = false) (h : value < 100) :
    readAfter? separator (separator :: (padded 2 value ++ rest)) = some ((value : Int), rest) := by
  simp [readAfter?, skipBlanks, hseparator, readTwo?_padded h]

theorem readYear?_padded {width value : Nat} {rest : List Char} :
    readYear? (padded width value ++ rest) = readDigits? 4 (padded width value ++ rest) := by
  rw [readYear?, skipBlanks_padded]
  cases hdigits : padded width value with
  | nil => exact absurd hdigits padded_ne_nil
  | cons c digits =>
    have hc : c.isDigit = true := isDigit_of_mem_padded (hdigits ▸ List.mem_cons_self)
    rw [List.cons_append]
    split
    · next h => cases h; cases hc
    · next h => cases h; cases hc
    · rfl

/-- **A year is read back** up to the hyphen after it. -/
theorem readYear?_writeYear (year : Int) (rest : List Char) :
    readYear? (writeYear year ++ '-' :: rest) = some (year, '-' :: rest) := by
  have hdigits : readDigits? (padded 4 year.natAbs ++ '-' :: rest).length
      (padded 4 year.natAbs ++ '-' :: rest) = some ((year.natAbs : Int), '-' :: rest) :=
    readDigits?_padded_of_not_digit rfl
  unfold writeYear
  split
  -- a year before the year zero
  · next hneg =>
    have hread : readYear? ('-' :: (padded 4 year.natAbs ++ '-' :: rest)) =
        some (0 - (year.natAbs : Int), '-' :: rest) :=
      congrArg (Option.map fun (number : Int × List Char) => (0 - number.1, number.2)) hdigits
    rw [List.cons_append, hread]
    congr 2
    omega
  · next hnonneg =>
    have hvalue : (year.natAbs : Int) = year := by omega
    split
    -- a year of more than four digits
    · have hread : readYear? ('+' :: (padded 4 year.natAbs ++ '-' :: rest)) =
          some ((year.natAbs : Int), '-' :: rest) := hdigits
      rw [List.cons_append, hread, hvalue]
    -- a year of four digits, which has no sign
    · have hlt : year.natAbs < Nat.pow 10 4 := by
        show year.natAbs < 10000
        omega
      rw [readYear?_padded, readDigits?_padded (by decide) hlt, hvalue]

/-! ## Moments -/

/-- **A moment that has a timestamp.** -/
structure Moment.IsValid (moment : Moment) : Prop where
  minute : 0 ≤ moment.minute ∧ moment.minute < minutesPerDay
  second : 0 ≤ moment.second ∧ moment.second ≤ 60
  year : isSupported (dateOfDay moment.day).1 = true

/-- A valid moment is the one of its date and its time of day. -/
theorem Moment.IsValid.moment?_eq {moment : Moment} (h : moment.IsValid) :
    moment? (dateOfDay moment.day) (moment.minute / 60) (moment.minute % 60) moment.second 0 =
      some moment := by
  obtain ⟨hminute, hsecond, hyear⟩ := h
  obtain ⟨year, month, day, hdate, -, -, -, -, hday⟩ := exists_dateOfDay moment.day
  have hminutes : moment.minute / 60 * 60 + moment.minute % 60 - 0 = moment.minute := by omega
  have hdays : moment.minute.fdiv minutesPerDay = 0 := by
    rw [minutesPerDay, Int.fdiv_eq_ediv_of_nonneg _ (by decide)]
    exact Int.ediv_eq_zero_of_lt hminute.1 hminute.2
  have hrest : moment.minute.fmod minutesPerDay = moment.minute := by
    rw [minutesPerDay, Int.fmod_eq_emod_of_nonneg _ (by decide)]
    exact Int.emod_eq_of_lt hminute.1 hminute.2
  have hhour : moment.minute / 60 ≤ 23 ∧ moment.minute % 60 ≤ 59 := by
    have := hminute.2
    simp only [minutesPerDay] at this
    omega
  rw [hdate] at hyear ⊢
  simp only [moment?, hday, hdate, hminutes, hdays, hrest, hhour.1, hhour.2, hsecond.2, hyear,
    Int.add_zero, and_self, if_true]

/-- **A moment is read back** from its timestamp. -/
theorem read?_write {moment : Moment} (h : moment.IsValid) :
    read? (write moment) = some moment := by
  obtain ⟨year, month, day, hdate, hmonth, hmonth', hday, hday', -⟩ :=
    exists_dateOfDay moment.day
  have hmoment := h.moment?_eq
  obtain ⟨hminute, hsecond, -⟩ := h
  have hminute' := hminute.2
  simp only [minutesPerDay] at hminute'
  have hcast : ((month.toNat : Int) = month) ∧ ((day.toNat : Int) = day) ∧
      ((moment.minute / 60).toNat : Int) = moment.minute / 60 ∧
      ((moment.minute % 60).toNat : Int) = moment.minute % 60 ∧
      ((moment.second.toNat : Int) = moment.second) := by
    omega
  -- One part is read after the other, each up to its separator.
  simp only [read?, write, hdate, String.toList_ofList, readYear?_writeYear, Option.bind_eq_bind,
    Option.bind_some]
  rw [readAfter?_padded (by decide) (by omega)]
  simp only [Option.bind_some]
  rw [readAfter?_padded (by decide) (by omega)]
  simp only [Option.bind_some, skipSeparator?]
  rw [readTwo?_padded (by omega)]
  simp only [Option.bind_some]
  rw [readAfter?_padded (by decide) (by omega)]
  simp only [Option.bind_some]
  rw [readAfter?_padded (by decide) (by omega)]
  rw [hdate] at hmoment
  simp only [Option.bind_some, hcast]
  exact hmoment

/-! ## Normal forms -/

theorem nonneg_of_readDigits? {most : Nat} {cs rest : List Char} {value : Int}
    (h : readDigits? most cs = some (value, rest)) : 0 ≤ value := by
  simp only [readDigits?] at h
  split at h
  · cases h
  · cases h
    exact Int.natCast_nonneg _

theorem nonneg_of_readAfter? {separator : Char} {cs rest : List Char} {value : Int}
    (h : readAfter? separator cs = some (value, rest)) : 0 ≤ value := by
  simp only [readAfter?] at h
  split at h
  · split at h
    · exact nonneg_of_readDigits? h
    · cases h
  · cases h

theorem Moment.isValid_of_moment? {date : Int × Int × Int} {hour minute second offset : Int}
    {moment : Moment} (hsecond : 0 ≤ second)
    (h : moment? date hour minute second offset = some moment) : moment.IsValid := by
  simp only [moment?] at h
  split at h
  · next hchecks =>
    obtain ⟨-, -, -, hsecond', -, hyear⟩ := hchecks
    cases h
    refine ⟨?_, ⟨hsecond, hsecond'⟩, hyear⟩
    rw [minutesPerDay, Int.fmod_eq_emod_of_nonneg _ (by decide)]
    exact ⟨Int.emod_nonneg _ (by decide), Int.emod_lt_of_pos _ (by decide)⟩
  · cases h

/-- What is read is a moment that has a timestamp. -/
theorem isValid_of_read? {text : String} {moment : Moment} (h : read? text = some moment) :
    moment.IsValid := by
  simp only [read?, Option.bind_eq_bind, Option.bind_eq_some_iff, Prod.exists] at h
  obtain ⟨_, _, -, _, _, -, _, _, -, _, -, _, _, -, _, _, -, _, _, hsecond, _, -, _, _, -, h⟩ := h
  split at h
  · exact Moment.isValid_of_moment? (nonneg_of_readAfter? hsecond) h
  · cases h

/-- **A normal form stays as it is.** -/
theorem normalize?_of_eq_some {text normal : String} (h : normalize? text = some normal) :
    normalize? normal = some normal := by
  obtain ⟨moment, hread, rfl⟩ := Option.map_eq_some_iff.mp h
  rw [normalize?, read?_write (isValid_of_read? hread), Option.map_some]

end VmProvisioning.Timestamp
