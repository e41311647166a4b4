/-! # Counting days

The lengths of the months and years of the Gregorian calendar, extended to all
years from 1 on, and the way back from a number of days to whole years and
months.  The two directions are tied by

* `daysInYears_yearsIn_le`, `lt_daysInYears_yearsIn_succ` — `yearsIn days` is the
  number of years that fit into `days` days;
* `daysInMonths_monthsIn_le`, `lt_daysInMonths_monthsIn_succ` — the same for the
  months of one year;
* `daysLeftInYear_lt`, `daysLeftInMonth_lt` — what is left over is less than a year
  or a month.

The counting of years is the step that needs care: a leap day may stand at the
very end of a cycle of 4 or 400 years, so a cycle must not be taken off once too
often. -/

namespace EntityHeaders.Calendar

/-! ## Lengths -/

/-- Every fourth year is a leap year, but of the full centuries only every
fourth. -/
def isLeapYear (year : Nat) : Bool :=
  year % 4 == 0 && (year % 100 != 0 || year % 400 == 0)

def daysInMonth (year month : Nat) : Nat :=
  if month = 2 then if isLeapYear year then 29 else 28
  else if month = 4 ∨ month = 6 ∨ month = 9 ∨ month = 11 then 30
  else 31

/-- The number of days in the years 1 to `years`. -/
def daysInYears (years : Nat) : Nat :=
  years * 365 + years / 4 - years / 100 + years / 400

/-- The number of days in the first `months` months of a year. -/
def daysInMonths (year : Nat) : (months : Nat) → Nat
  | 0 => 0
  | months + 1 => daysInMonths year months + daysInMonth year (months + 1)

/-! ## Whole years and months -/

/-- How many years fit into `days` days. -/
def yearsIn (days : Nat) : Nat :=
  let inEra := days % 146097
  -- three at most here and below: the last day of a longer cycle starts no further one
  let century := min 3 (inEra / 36524)
  let inCentury := inEra - century * 36524
  days / 146097 * 400 + century * 100 + inCentury / 1461 * 4 +
    min 3 (inCentury % 1461 / 365)

/-- How many of the first `months` months of a year fit into `days` days. -/
def monthsIn (year days : Nat) : (months : Nat) → Nat
  | 0 => 0
  | months + 1 =>
    if daysInMonths year (months + 1) ≤ days then months + 1 else monthsIn year days months

/-- The days of the year that has begun after `days` days. -/
def daysLeftInYear (days : Nat) : Nat :=
  days - daysInYears (yearsIn days)

/-- The days of the month that has begun after `days` days of a year. -/
def daysLeftInMonth (year days : Nat) : Nat :=
  days - daysInMonths year (monthsIn year days 11)

/-! ## Years that fit -/

theorem daysInYears_cycles (era century leap single : Nat)
    (hCentury : century ≤ 3) (hLeap : leap ≤ 24) (hSingle : single ≤ 3) :
    daysInYears (era * 400 + century * 100 + leap * 4 + single) =
      era * 146097 + century * 36524 + leap * 1461 + single * 365 := by
  have fours : (era * 400 + century * 100 + leap * 4 + single) / 4 =
      era * 100 + century * 25 + leap := by omega
  have hundreds : (era * 400 + century * 100 + leap * 4 + single) / 100 =
      era * 4 + century := by omega
  have eras : (era * 400 + century * 100 + leap * 4 + single) / 400 = era := by omega
  simp only [daysInYears, fours, hundreds, eras]
  omega

/-- The cycles that `yearsIn` counts: they fill `days` up to less than the next
year. -/
theorem exists_cycles (days : Nat) :
    ∃ era century leap single,
      yearsIn days = era * 400 + century * 100 + leap * 4 + single ∧
      century ≤ 3 ∧ leap ≤ 24 ∧ single ≤ 3 ∧
      daysInYears (yearsIn days) ≤ days ∧
      days < daysInYears (yearsIn days + 1) := by
  obtain ⟨era, inEra, hEra, rfl⟩ : ∃ e r, r < 146097 ∧ days = e * 146097 + r :=
    ⟨days / 146097, days % 146097, by omega, by omega⟩
  have modEra : (era * 146097 + inEra) % 146097 = inEra := by omega
  have divEra : (era * 146097 + inEra) / 146097 = era := by omega
  unfold yearsIn
  simp only [modEra, divEra]
  obtain ⟨century, hc⟩ : ∃ c, c = min 3 (inEra / 36524) := ⟨_, rfl⟩
  rw [← hc]
  obtain ⟨leap, hl⟩ : ∃ l, l = (inEra - century * 36524) / 1461 := ⟨_, rfl⟩
  obtain ⟨inLeap, hr⟩ : ∃ r, r = (inEra - century * 36524) % 1461 := ⟨_, rfl⟩
  rw [← hl, ← hr]
  obtain ⟨single, hs⟩ : ∃ s, s = min 3 (inLeap / 365) := ⟨_, rfl⟩
  rw [← hs]
  have century_le : century ≤ 3 := by omega
  have leap_le : leap ≤ 24 := by omega
  have single_le : single ≤ 3 := by omega
  refine ⟨era, century, leap, single, rfl, century_le, leap_le, single_le, ?_, ?_⟩
  · rw [daysInYears_cycles era century leap single century_le leap_le single_le]
    omega
  · -- the next year is one more of the shortest cycle that is not used up
    by_cases moreSingle : single < 3
    · rw [Nat.add_assoc,
        daysInYears_cycles era century leap (single + 1) century_le leap_le (by omega)]
      omega
    by_cases moreLeap : leap < 24
    · rw [show era * 400 + century * 100 + leap * 4 + single + 1 =
          era * 400 + century * 100 + (leap + 1) * 4 + 0 by omega,
        daysInYears_cycles era century (leap + 1) 0 century_le (by omega) (by omega)]
      omega
    by_cases moreCentury : century < 3
    · rw [show era * 400 + century * 100 + leap * 4 + single + 1 =
          era * 400 + (century + 1) * 100 + 0 * 4 + 0 by omega,
        daysInYears_cycles era (century + 1) 0 0 (by omega) (by omega) (by omega)]
      omega
    · rw [show era * 400 + century * 100 + leap * 4 + single + 1 =
          (era + 1) * 400 + 0 * 100 + 0 * 4 + 0 by omega,
        daysInYears_cycles (era + 1) 0 0 0 (by omega) (by omega) (by omega)]
      omega

theorem daysInYears_yearsIn_le (days : Nat) : daysInYears (yearsIn days) ≤ days := by
  obtain ⟨_, _, _, _, _, _, _, _, fits, _⟩ := exists_cycles days
  exact fits

theorem lt_daysInYears_yearsIn_succ (days : Nat) :
    days < daysInYears (yearsIn days + 1) := by
  obtain ⟨_, _, _, _, _, _, _, _, _, full⟩ := exists_cycles days
  exact full

theorem daysInMonths_twelve (year : Nat) :
    daysInMonths year 12 = if isLeapYear year then 366 else 365 := by
  cases leap : isLeapYear year <;> simp [daysInMonths, daysInMonth, leap]

theorem daysInYears_succ (years : Nat) :
    daysInYears (years + 1) = daysInYears years + daysInMonths (years + 1) 12 := by
  have fours : (years + 1) / 4 = years / 4 + if (years + 1) % 4 = 0 then 1 else 0 := by
    split <;> omega
  have hundreds :
      (years + 1) / 100 = years / 100 + if (years + 1) % 100 = 0 then 1 else 0 := by
    split <;> omega
  have eras : (years + 1) / 400 = years / 400 + if (years + 1) % 400 = 0 then 1 else 0 := by
    split <;> omega
  have ordered : years / 100 ≤ years / 4 := by omega
  rw [daysInMonths_twelve]
  simp only [daysInYears, isLeapYear, fours, hundreds, eras]
  by_cases four : (years + 1) % 4 = 0
  · by_cases hundred : (years + 1) % 100 = 0
    · by_cases era : (years + 1) % 400 = 0
      · simp [four, hundred, era]; omega
      · simp [four, hundred, era]; omega
    · have era : (years + 1) % 400 ≠ 0 := by omega
      simp [four, hundred, era]; omega
  · have hundred : (years + 1) % 100 ≠ 0 := by omega
    have era : (years + 1) % 400 ≠ 0 := by omega
    simp [four, hundred, era]; omega

theorem daysInYears_mono {a b : Nat} (h : a ≤ b) : daysInYears a ≤ daysInYears b := by
  induction h with
  | refl => exact Nat.le_refl _
  | step _ ih => rw [daysInYears_succ]; omega

theorem yearsIn_lt {days : Nat} (inside : days < 3652059) : yearsIn days + 1 ≤ 9999 := by
  have fits := daysInYears_yearsIn_le days
  have total : daysInYears 9999 = 3652059 := by decide
  by_cases h : 9999 ≤ yearsIn days
  · have := daysInYears_mono h
    omega
  · omega

theorem daysLeftInYear_lt (days : Nat) :
    daysLeftInYear days < daysInMonths (yearsIn days + 1) 12 := by
  have fits := daysInYears_yearsIn_le days
  have next := lt_daysInYears_yearsIn_succ days
  have year := daysInYears_succ (yearsIn days)
  unfold daysLeftInYear
  omega

theorem yearsIn_eq {days years : Nat} (fits : daysInYears years ≤ days)
    (next : days < daysInYears (years + 1)) : yearsIn days = years := by
  have fits' := daysInYears_yearsIn_le days
  have next' := lt_daysInYears_yearsIn_succ days
  rcases Nat.lt_trichotomy (yearsIn days) years with h | h | h
  · have := daysInYears_mono (Nat.succ_le_of_lt h)
    simp only [Nat.succ_eq_add_one] at this
    omega
  · exact h
  · have := daysInYears_mono (Nat.succ_le_of_lt h)
    simp only [Nat.succ_eq_add_one] at this
    omega

/-! ## Months that fit -/

theorem monthsIn_le (year days months : Nat) : monthsIn year days months ≤ months := by
  induction months with
  | zero => simp [monthsIn]
  | succ months ih =>
    unfold monthsIn
    split <;> omega

theorem daysInMonths_monthsIn_le (year days months : Nat) :
    daysInMonths year (monthsIn year days months) ≤ days := by
  induction months with
  | zero => simp [monthsIn, daysInMonths]
  | succ months ih =>
    unfold monthsIn
    split
    · assumption
    · exact ih

theorem lt_daysInMonths_monthsIn_succ (year days months : Nat)
    (short : days < daysInMonths year (months + 1)) :
    days < daysInMonths year (monthsIn year days months + 1) := by
  induction months with
  | zero => exact short
  | succ months ih =>
    unfold monthsIn
    split
    · exact short
    · exact ih (by omega)

theorem daysInMonths_mono (year : Nat) {a b : Nat} (h : a ≤ b) :
    daysInMonths year a ≤ daysInMonths year b := by
  induction h with
  | refl => exact Nat.le_refl _
  | step _ ih => exact Nat.le_trans ih (Nat.le_add_right _ _)

theorem monthsIn_eq {year days months count : Nat} (fits : daysInMonths year months ≤ days)
    (next : days < daysInMonths year (months + 1)) (short : days < daysInMonths year (count + 1)) :
    monthsIn year days count = months := by
  have fits' := daysInMonths_monthsIn_le year days count
  have next' := lt_daysInMonths_monthsIn_succ year days count short
  rcases Nat.lt_trichotomy (monthsIn year days count) months with h | h | h
  · have := daysInMonths_mono year (Nat.succ_le_of_lt h)
    simp only [Nat.succ_eq_add_one] at this
    omega
  · exact h
  · have := daysInMonths_mono year (Nat.succ_le_of_lt h)
    simp only [Nat.succ_eq_add_one] at this
    omega

theorem daysLeftInMonth_lt (year days : Nat) (short : days < daysInMonths year 12) :
    daysLeftInMonth year days + 1 ≤ daysInMonth year (monthsIn year days 11 + 1) := by
  have fits := daysInMonths_monthsIn_le year days 11
  have next := lt_daysInMonths_monthsIn_succ year days 11 short
  simp only [daysInMonths] at next
  unfold daysLeftInMonth
  omega

end EntityHeaders.Calendar
