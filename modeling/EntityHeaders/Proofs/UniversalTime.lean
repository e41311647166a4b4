import EntityHeaders.Proofs.DayCount
import EntityHeaders.Proofs.Instant

/-! # The clock of UTC

Every timestamp has one reading on the clock of UTC: that of its own instant, or of the first or
last one of the calendar if the instant lies before or after it.

* `ReadsBefore` — a clock shows less than another, field by field from the year down.
* `ReadsBefore.instant_lt` — on the clock of UTC that is to be earlier.
* `toUtc_nearest` — so moving to UTC keeps instants and their order as far as the calendar goes,
  and changes no field of a clock that is there already.
-/

namespace EntityHeaders.Calendar

/-! ## Reading a clock -/

/-- The date shows less, field by field from the year down. -/
def Date.Before (a b : Date) : Prop :=
  a.year < b.year ∨ a.year = b.year ∧
    (a.month < b.month ∨ a.month = b.month ∧ a.day < b.day)

/-- The time of day shows less, field by field from the hour down. -/
def TimeOfDay.Before (a b : TimeOfDay) : Prop :=
  a.hour < b.hour ∨ a.hour = b.hour ∧
    (a.minute < b.minute ∨ a.minute = b.minute ∧
      (a.second < b.second ∨ a.second = b.second ∧ a.micro < b.micro))

theorem Date.Before.dayNumber_lt {a b : Date} (before : a.Before b) :
    a.dayNumber < b.dayNumber := by
  have inYear := a.day_in_year
  have inMonth := a.day_le
  have day_pos := a.day_pos
  rcases before with year | ⟨year, month | ⟨month, day⟩⟩
  · -- the whole year of `a` is over before that of `b` begins
    have whole := daysInYears_succ (a.year - 1)
    rw [Nat.sub_add_cancel a.year_pos] at whole
    have passed := daysInYears_mono (Nat.le_sub_one_of_lt year)
    unfold dayNumber
    omega
  · have whole := daysInMonths_of_date a
    have passed := daysInMonths_mono a.year (Nat.le_sub_one_of_lt month)
    rw [dayNumber, dayNumber, ← year]
    omega
  · rw [dayNumber, dayNumber, ← year, ← month]
    omega

theorem TimeOfDay.Before.micros_lt {a b : TimeOfDay} (before : a.Before b) :
    a.micros < b.micros := by
  have minute := a.minute_lt
  have second := a.second_lt
  have micro := a.micro_lt
  unfold Before at before
  unfold micros
  omega

namespace Timestamp

/-- The clock of `a` shows less than that of `b`, wherever the two hang. -/
def ReadsBefore (a b : Timestamp) : Prop :=
  a.date.Before b.date ∨ a.date = b.date ∧ a.time.Before b.time

theorem ReadsBefore.instant_lt {a b : Timestamp} (before : a.ReadsBefore b)
    (utc : a.zone = some .utc) (also : b.zone = some .utc) : a.instant < b.instant := by
  have micros := a.time.micros_lt
  rw [instant_of_utc utc, instant_of_utc also]
  simp only [microsPerDay] at micros ⊢
  rcases before with date | ⟨date, time⟩
  · have days := date.dayNumber_lt
    omega
  · have less := time.micros_lt
    rw [date]
    omega

/-! ## Moving to UTC -/

theorem zone_toUtc (t : Timestamp) : t.toUtc.zone = some .utc := by
  rw [toUtc_eq_ofInstant]
  rfl

theorem toUtc_of_utc {t : Timestamp} (utc : t.zone = some .utc) : t.toUtc = t := by
  rw [toUtc_eq_ofInstant, ofInstant_instant utc]

theorem eq_of_instant_eq {a b : Timestamp} (utc : a.zone = some .utc) (also : b.zone = some .utc)
    (same : a.instant = b.instant) : a = b := by
  rw [← ofInstant_instant utc, same, ofInstant_instant also]

theorem instant_first : first.instant = 0 := by
  rw [first_eq_ofMicros, instant_ofMicros]
  rfl

theorem instant_last : last.instant = lastInstant := by
  rw [last_eq_ofMicros, instant_ofMicros]

theorem instant_toUtc (t : Timestamp) :
    t.toUtc.instant = max first.instant (min t.instant last.instant) := by
  rw [toUtc_eq_ofInstant, instant_ofInstant, instant_first, instant_last]
  simp only [clamp]
  omega

/-- Moved to UTC, a timestamp is the one there whose instant is its own, as far as the calendar
    goes.  So a second move changes nothing, nor does the first where the clock is that of UTC or
    taken for it, and what is not later stays not later. -/
theorem toUtc_nearest (a b : Timestamp) :
    (∃ days, Date.Elapsed days a.date ∧
      a.instant = (days * microsPerDay + a.time.micros : Nat) - a.shift) ∧
    (∀ utc : Timestamp, utc = a.toUtc ↔
      utc.zone = some .utc ∧ utc.instant = max first.instant (min a.instant last.instant)) ∧
    a.toUtc.toUtc = a.toUtc ∧
    (a.zone = none ∨ a.zone = some .utc → a.toUtc = { a with zone := some .utc }) ∧
    (a.instant ≤ b.instant →
      a.toUtc.instant ≤ b.toUtc.instant ∧ ¬ b.toUtc.ReadsBefore a.toUtc) ∧
    (a.instant = b.instant → a.toUtc = b.toUtc) := by
  refine ⟨⟨_, Date.elapsed_iff.mpr rfl, rfl⟩, ?_, toUtc_of_utc a.zone_toUtc, ?_, ?_, ?_⟩
  · intro utc
    refine ⟨?_, ?_⟩
    · intro moved
      rw [moved]
      exact ⟨a.zone_toUtc, a.instant_toUtc⟩
    · intro nearest
      exact eq_of_instant_eq nearest.1 a.zone_toUtc (nearest.2.trans a.instant_toUtc.symm)
  · intro there
    cases there with
    | inl naive => simp only [toUtc, naive]
    | inr utc => rw [toUtc_of_utc utc, ← utc]
  · intro ordered
    have kept : a.toUtc.instant ≤ b.toUtc.instant := by
      rw [instant_toUtc, instant_toUtc]
      omega
    refine ⟨kept, ?_⟩
    intro before
    exact Int.not_lt.mpr kept (before.instant_lt b.zone_toUtc a.zone_toUtc)
  · intro same
    rw [toUtc_eq_ofInstant, toUtc_eq_ofInstant, same]

/-- The first midnight of the calendar on a clock two hours ahead of UTC. -/
def firstAhead : Timestamp :=
  { first with zone := some { micros := 7200000000 } }

/-- The last moment of the calendar on a clock two hours behind UTC. -/
def lastBehind : Timestamp :=
  { last with zone := some { micros := -7200000000 } }

/-- Both have left the calendar, at either end, and are taken back to it. -/
theorem toUtc_nearest_border :
    firstAhead.instant < first.instant ∧ last.instant < lastBehind.instant ∧
      firstAhead.toUtc = first ∧ lastBehind.toUtc = last ∧
      ¬ lastBehind.toUtc.ReadsBefore firstAhead.toUtc ∧
      ({ last with zone := none } : Timestamp).toUtc = last ∧
      ({ epoch with time := { hour := 2, minute := 0, second := 0, micro := 0 }
                    zone := some { micros := 7200000000 } } : Timestamp).toUtc = epoch.toUtc := by
  have early : firstAhead.instant < first.instant := by decide
  have late : last.instant < lastBehind.instant := by decide
  have calendar : first.instant ≤ last.instant := by decide
  obtain ⟨-, taken_first, -, -, order, -⟩ := toUtc_nearest firstAhead lastBehind
  obtain ⟨-, taken_last, -, -, -, -⟩ := toUtc_nearest lastBehind firstAhead
  refine ⟨early, late, ?_, ?_, (order (by omega)).2, ?_, ?_⟩
  · exact ((taken_first first).mpr ⟨rfl, by omega⟩).symm
  · exact ((taken_last last).mpr ⟨rfl, by omega⟩).symm
  · exact (toUtc_nearest { last with zone := none } first).2.2.2.1 (.inl rfl)
  · exact (toUtc_nearest _ epoch).2.2.2.2.2 (by decide)

end Timestamp

end EntityHeaders.Calendar
