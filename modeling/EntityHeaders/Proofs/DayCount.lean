import EntityHeaders.Calendar.Timestamp

/-! # The calendar day by day

`dayNumber` and `ofDayNumber` compute with whole cycles of years.  Here the days are counted as
the leaves of a calendar are turned, and both counts are the same:

* `Follows` — one date is the next leaf after another; `exists_follows` finds the leaf.
* `Elapsed` — the number of leaves since 1 January of the year 1.
* `elapsed_iff` — that number is `dayNumber`.
* `FallsOn` — the day of the week by this count, of which the first day is a Monday.
-/

namespace EntityHeaders.Calendar

namespace Date

/-! ## Turning one leaf -/

/-- The second date is that of the day after the first. -/
inductive Follows (date next : Date) : Prop
  | inMonth (year : next.year = date.year) (month : next.month = date.month)
      (day : next.day = date.day + 1) : Follows date next
  | nextMonth (ends : date.day = daysInMonth date.year date.month)
      (year : next.year = date.year) (month : next.month = date.month + 1) (day : next.day = 1) :
      Follows date next
  | nextYear (ends : date.month = 12 ∧ date.day = 31) (year : next.year = date.year + 1)
      (month : next.month = 1) (day : next.day = 1) : Follows date next

theorem one_le_daysInMonth (year month : Nat) : 1 ≤ daysInMonth year month := by
  unfold daysInMonth
  repeat' split
  all_goals decide

theorem daysInMonths_of_date (date : Date) :
    daysInMonths date.year date.month =
      daysInMonths date.year (date.month - 1) + daysInMonth date.year date.month := by
  obtain ⟨m, month⟩ : ∃ m, date.month = m + 1 :=
    ⟨date.month - 1, (Nat.sub_add_cancel date.month_pos).symm⟩
  rw [month, Nat.add_sub_cancel, daysInMonths]

/-- The step: a day more has passed before the day after. -/
theorem Follows.dayNumber_eq {date next : Date} (follows : Follows date next) :
    next.dayNumber = date.dayNumber + 1 := by
  have day_pos := date.day_pos
  cases follows with
  | inMonth year month day =>
    rw [dayNumber, dayNumber, year, month, day]
    omega
  | nextMonth ends year month day =>
    have whole := daysInMonths_of_date date
    rw [dayNumber, dayNumber, year, month, day, ends, Nat.add_sub_cancel]
    omega
  | nextYear ends year month day =>
    have last := daysInMonths_of_date date
    have whole := daysInYears_succ (date.year - 1)
    rw [Nat.sub_add_cancel date.year_pos] at whole
    rw [ends.1] at last
    have december : daysInMonth date.year 12 = 31 := rfl
    have january : daysInMonths (date.year + 1) 0 = 0 := rfl
    rw [dayNumber, dayNumber, year, month, day, ends.1, ends.2, Nat.add_sub_cancel, Nat.sub_self,
      january]
    omega

theorem dayNumber_injective {a b : Date} (same : a.dayNumber = b.dayNumber) : a = b := by
  calc a = ofDayNumber a.dayNumber a.dayNumber_lt_count := (ofDayNumber_dayNumber a).symm
    _ = ofDayNumber b.dayNumber b.dayNumber_lt_count := by simp only [same]
    _ = b := ofDayNumber_dayNumber b

/-- Every date but the last of the calendar has one after it. -/
theorem exists_follows {date : Date} (inside : date.dayNumber + 1 < count) :
    ∃ next, Follows date next := by
  have day_le := date.day_le
  by_cases inMonth : date.day < daysInMonth date.year date.month
  · exact ⟨{ date with day := date.day + 1, day_pos := Nat.le_add_left 1 _, day_le := inMonth },
      .inMonth rfl rfl rfl⟩
  have ends : date.day = daysInMonth date.year date.month :=
    Nat.le_antisymm day_le (Nat.not_lt.mp inMonth)
  by_cases inYear : date.month < 12
  · exact ⟨{ date with
        month := date.month + 1, day := 1
        month_pos := Nat.le_add_left 1 _
        month_le := inYear
        day_pos := Nat.le_refl 1
        day_le := one_le_daysInMonth _ _ }, .nextMonth ends rfl rfl rfl⟩
  have december : date.month = 12 := Nat.le_antisymm date.month_le (Nat.not_lt.mp inYear)
  by_cases inCalendar : date.year < 9999
  · refine ⟨{
        year := date.year + 1, month := 1, day := 1
        year_pos := Nat.le_add_left 1 _
        year_le := inCalendar
        day_le := one_le_daysInMonth _ _ }, .nextYear ⟨december, ?_⟩ rfl rfl rfl⟩
    rw [ends, december]
    rfl
  · -- what is left is the last day of the last year, with no day after it
    have year : date.year = 9999 := Nat.le_antisymm date.year_le (Nat.not_lt.mp inCalendar)
    have last : date.dayNumber + 1 = count := by
      rw [dayNumber, ends, december, year]
      decide
    omega

/-! ## Counting leaves -/

/-- So many days have passed since the first of the calendar, counted one by one. -/
inductive Elapsed : Nat → Date → Prop
  | first : Elapsed 0 Timestamp.first.date
  | next {days : Nat} {date next : Date} (before : Elapsed days date)
      (follows : Follows date next) : Elapsed (days + 1) next

theorem Elapsed.dayNumber_eq {days : Nat} {date : Date} (elapsed : Elapsed days date) :
    date.dayNumber = days := by
  induction elapsed with
  | first => rfl
  | next before follows ih => rw [follows.dayNumber_eq, ih]

theorem exists_elapsed {days : Nat} (inside : days < count) : ∃ date, Elapsed days date := by
  induction days with
  | zero => exact ⟨_, .first⟩
  | succ days ih =>
    obtain ⟨date, elapsed⟩ := ih (Nat.lt_of_succ_lt inside)
    obtain ⟨next, follows⟩ := exists_follows (elapsed.dayNumber_eq.symm ▸ inside)
    exact ⟨next, .next elapsed follows⟩

/-- The days counted one by one are those of the formula. -/
theorem elapsed_iff {days : Nat} {date : Date} : Elapsed days date ↔ date.dayNumber = days := by
  refine ⟨Elapsed.dayNumber_eq, ?_⟩
  rintro rfl
  obtain ⟨other, elapsed⟩ := exists_elapsed date.dayNumber_lt_count
  have same : other = date := dayNumber_injective elapsed.dayNumber_eq
  subst same
  exact elapsed

/-! ## Days of the week -/

/-- The day of the week, Monday being 0, by counting days from a Monday. -/
def FallsOn (date : Date) (weekday : Nat) : Prop :=
  ∃ days, Elapsed days date ∧ weekday = days % 7

theorem fallsOn_iff {date : Date} {weekday : Nat} :
    date.FallsOn weekday ↔ weekday = date.weekday := by
  refine ⟨?_, ?_⟩
  · rintro ⟨days, elapsed, rfl⟩
    rw [Date.weekday, elapsed.dayNumber_eq]
  · rintro rfl
    exact ⟨date.dayNumber, elapsed_iff.mpr rfl, rfl⟩

end Date

end EntityHeaders.Calendar
