import EntityHeaders.Calendar.Count

/-! # Dates

A date of the Gregorian calendar in the years 1 to 9999.  Dates are numbered by
the days since 1 January of the year 1, which was a Monday: `dayNumber` numbers a
date and `ofDayNumber` finds the date of a number.  The two undo each other, by
`dayNumber_ofDayNumber` and `ofDayNumber_dayNumber`.
-/

namespace EntityHeaders.Calendar

structure Date where
  year : Nat
  month : Nat
  day : Nat
  year_pos : 1 ≤ year := by decide
  year_le : year ≤ 9999 := by decide
  month_pos : 1 ≤ month := by decide
  month_le : month ≤ 12 := by decide
  day_pos : 1 ≤ day := by decide
  day_le : day ≤ daysInMonth year month := by decide
deriving DecidableEq

namespace Date

/-- The number of days before the date. -/
def dayNumber (date : Date) : Nat :=
  daysInYears (date.year - 1) + daysInMonths date.year (date.month - 1) + (date.day - 1)

/-- The day of the week, Monday being 0. -/
def weekday (date : Date) : Nat :=
  date.dayNumber % 7

def count : Nat := 3652059

/-- The date with `n` days before it. -/
def ofDayNumber (n : Nat) (inside : n < count) : Date :=
  let year := yearsIn n + 1
  let inYear := daysLeftInYear n
  { year
    month := monthsIn year inYear 11 + 1
    day := daysLeftInMonth year inYear + 1
    year_pos := Nat.le_add_left 1 _
    year_le := yearsIn_lt inside
    month_pos := Nat.le_add_left 1 _
    month_le := Nat.succ_le_succ (monthsIn_le year inYear 11)
    day_pos := Nat.le_add_left 1 _
    day_le := daysLeftInMonth_lt year inYear (daysLeftInYear_lt n) }

/-! ## The two directions -/

theorem dayNumber_ofDayNumber (n : Nat) (inside : n < count) :
    (ofDayNumber n inside).dayNumber = n := by
  have years := daysInYears_yearsIn_le n
  have months := daysInMonths_monthsIn_le (yearsIn n + 1) (daysLeftInYear n) 11
  simp only [dayNumber, ofDayNumber, Nat.add_sub_cancel, daysLeftInMonth]
  unfold daysLeftInYear at months ⊢
  omega

theorem day_in_year (date : Date) :
    daysInMonths date.year (date.month - 1) + (date.day - 1) < daysInMonths date.year 12 := by
  have upTo := daysInMonths_mono date.year date.month_le
  obtain ⟨m, hm⟩ : ∃ m, date.month = m + 1 := ⟨date.month - 1, by have := date.month_pos; omega⟩
  have day := date.day_le
  have pos := date.day_pos
  rw [hm] at upTo day ⊢
  simp only [daysInMonths, Nat.add_sub_cancel] at upTo ⊢
  omega

theorem dayNumber_lt_count (date : Date) : date.dayNumber < count := by
  have inYear := day_in_year date
  have year := daysInYears_succ (date.year - 1)
  have pos := date.year_pos
  rw [Nat.sub_add_cancel pos] at year
  have all := daysInYears_mono date.year_le
  have total : daysInYears 9999 = count := by decide
  unfold dayNumber
  omega

theorem ofDayNumber_dayNumber (date : Date) :
    ofDayNumber date.dayNumber date.dayNumber_lt_count = date := by
  have inYear := day_in_year date
  have year := daysInYears_succ (date.year - 1)
  have posY := date.year_pos
  have posM := date.month_pos
  have posD := date.day_pos
  have day := date.day_le
  rw [Nat.sub_add_cancel posY] at year
  have years : yearsIn date.dayNumber = date.year - 1 := by
    apply yearsIn_eq
    · unfold dayNumber; omega
    · rw [Nat.sub_add_cancel posY]; unfold dayNumber; omega
  have left : daysLeftInYear date.dayNumber =
      daysInMonths date.year (date.month - 1) + (date.day - 1) := by
    unfold daysLeftInYear
    rw [years]
    unfold dayNumber
    omega
  have months : monthsIn date.year (daysInMonths date.year (date.month - 1) + (date.day - 1)) 11 =
      date.month - 1 := by
    apply monthsIn_eq
    · omega
    · simp only [daysInMonths, Nat.sub_add_cancel posM]
      omega
    · exact inYear
  obtain ⟨y, m, d, _, _, _, _, _, _⟩ := date
  simp only [ofDayNumber, years, left, Date.mk.injEq]
  simp only at years left months posY posM posD
  rw [Nat.sub_add_cancel posY]
  refine ⟨rfl, ?_, ?_⟩
  · rw [months]; omega
  · simp only [daysLeftInMonth, months]; omega

end Date

end EntityHeaders.Calendar
