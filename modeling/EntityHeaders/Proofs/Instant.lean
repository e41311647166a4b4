import EntityHeaders.Calendar.Timestamp

/-! # Instants on the clock of UTC

A timestamp in UTC is its instant, and `toUtc` finds the timestamp of the instant or
of the nearest one that the calendar has:

* `ofInstant_instant` — the instant of a timestamp in UTC leads back to it.
* `toUtc_eq_ofInstant` — the sign of the offset tells on which side of the calendar
  an instant lies that is not in it.
* `toSecond` — what is left of a timestamp when it is written to the second in UTC,
  with `toSecond_agrees_iff` for when nothing is lost.
-/

namespace EntityHeaders.Calendar

def TimeOfDay.toSecond (time : TimeOfDay) : TimeOfDay :=
  { time with micro := 0, micro_lt := Nat.succ_pos _ }

namespace Timestamp

/-! ## Timestamps in UTC -/

theorem clock_le (t : Timestamp) :
    t.date.dayNumber * microsPerDay + t.time.micros ≤ lastInstant := by
  have days := t.date.dayNumber_lt_count
  have micros := t.time.micros_lt
  simp only [lastInstant, Date.count, microsPerDay] at *
  omega

theorem ofMicros_clock {t : Timestamp} (utc : t.zone = some .utc) :
    ofMicros (t.date.dayNumber * microsPerDay + t.time.micros) t.clock_le = t := by
  have micros := t.time.micros_lt
  have days : (t.date.dayNumber * microsPerDay + t.time.micros) / microsPerDay =
      t.date.dayNumber := by
    simp only [microsPerDay] at *
    omega
  have time : (t.date.dayNumber * microsPerDay + t.time.micros) % microsPerDay =
      t.time.micros := by
    simp only [microsPerDay] at *
    omega
  obtain ⟨date, clock, zone⟩ := t
  cases utc
  simp only [ofMicros, days, time, Date.ofDayNumber_dayNumber, TimeOfDay.ofMicros_micros]

theorem instant_of_utc {t : Timestamp} (utc : t.zone = some .utc) :
    t.instant = (t.date.dayNumber * microsPerDay + t.time.micros : Nat) := by
  simp [instant, shift, utc, Offset.utc]

theorem ofInstant_natCast {n : Nat} (inside : n ≤ lastInstant) :
    ofInstant n = ofMicros n inside := by
  have same : clamp n = n := Nat.min_eq_left inside
  simp only [ofInstant, same]

/-- The instant of a timestamp in UTC leads back to it. -/
theorem ofInstant_instant {t : Timestamp} (utc : t.zone = some .utc) :
    ofInstant t.instant = t := by
  rw [instant_of_utc utc, ofInstant_natCast t.clock_le, ofMicros_clock utc]

/-! ## Moving the clock to UTC -/

theorem first_eq_ofMicros : first = ofMicros 0 (Nat.zero_le _) := by
  decide

theorem last_eq_ofMicros : last = ofMicros lastInstant (Nat.le_refl _) := by
  decide

theorem clamp_of_neg {instant : Int} (before : instant < 0) : clamp instant = 0 := by
  rw [clamp, Int.toNat_of_nonpos (Int.le_of_lt before), Nat.zero_min]

theorem clamp_of_gt {instant : Int} (after : lastInstant < instant) :
    clamp instant = lastInstant := by
  apply Nat.min_eq_right
  omega

theorem ofInstant_of_neg {instant : Int} (before : instant < 0) : ofInstant instant = first := by
  simp only [ofInstant, clamp_of_neg before, first_eq_ofMicros]

theorem ofInstant_of_gt {instant : Int} (after : lastInstant < instant) :
    ofInstant instant = last := by
  simp only [ofInstant, clamp_of_gt after, last_eq_ofMicros]

theorem ofInstant?_eq_some {instant : Int} (inside : 0 ≤ instant ∧ instant ≤ lastInstant) :
    ofInstant? instant = some (ofInstant instant) := by
  have same : clamp instant = instant.toNat := Nat.min_eq_left (toNat_le_lastInstant inside)
  simp only [ofInstant?, dif_pos inside, ofInstant, same]

theorem toUtc_eq_ofInstant (t : Timestamp) : t.toUtc = ofInstant t.instant := by
  have clock := t.clock_le
  unfold toUtc
  cases zone : t.zone with
  | none =>
    -- the instant of a clock without an offset is that of the same clock in UTC
    have utc := ofInstant_instant (t := { t with zone := some .utc }) rfl
    simp only [instant_of_utc] at utc
    simp [instant, shift, zone, ← utc]
  | some offset =>
    by_cases inside : 0 ≤ t.instant ∧ t.instant ≤ lastInstant
    · simp only [ofInstant?_eq_some inside]
    · simp only [ofInstant?, dif_neg inside]
      -- the clock itself stays within the calendar, so only the offset leads out of it
      have moved : t.instant =
          (t.date.dayNumber * microsPerDay + t.time.micros : Nat) - offset.micros := by
        simp [instant, shift, zone]
      by_cases ahead : 0 < offset.micros
      · rw [if_pos ahead, ofInstant_of_neg (by omega)]
      · rw [if_neg ahead, ofInstant_of_gt (by omega)]

/-! ## Whole seconds -/

/-- What a timestamp written in UTC to the second still tells: the nearest instant of
    the calendar without its microseconds. -/
def toSecond (t : Timestamp) : Timestamp :=
  { ofInstant t.instant with time := (ofInstant t.instant).time.toSecond }

@[simp]
theorem zone_toSecond (t : Timestamp) : t.toSecond.zone = some .utc :=
  rfl

@[simp]
theorem micro_toSecond (t : Timestamp) : t.toSecond.time.micro = 0 :=
  rfl

theorem instant_dropMicros (t : Timestamp) (utc : t.zone = some .utc) :
    ({ t with time := t.time.toSecond } : Timestamp).instant =
      t.instant - t.instant % 1000000 := by
  have micro := t.time.micro_lt
  rw [instant_of_utc utc, instant_of_utc (t := { t with time := t.time.toSecond }) utc]
  simp only [TimeOfDay.toSecond, TimeOfDay.micros, microsPerDay]
  omega

theorem instant_toSecond (t : Timestamp) :
    t.toSecond.instant = (clamp t.instant : Int) - clamp t.instant % 1000000 := by
  rw [toSecond, instant_dropMicros _ rfl, instant_ofInstant]

/-- Of an instant before the calendar only the start of the calendar is left. -/
theorem toSecond_of_neg {t : Timestamp} (before : t.instant < 0) : t.toSecond = first := by
  rw [toSecond, ofInstant_of_neg before]
  rfl

theorem toSecond_of_whole {t : Timestamp} (utc : t.zone = some .utc) (whole : t.time.micro = 0) :
    t.toSecond = t := by
  rw [toSecond, ofInstant_instant utc]
  obtain ⟨date, ⟨hour, minute, second, micro, _, _, _, _⟩, zone⟩ := t
  cases whole
  rfl

/-- What is written agrees with the timestamp if that has an offset and is a whole second
    of the calendar. -/
theorem toSecond_agrees_iff (t : Timestamp) :
    t.toSecond.Agrees t ↔
      t.zone.isSome ∧ 0 ≤ t.instant ∧ t.instant ≤ lastInstant ∧ t.instant % 1000000 = 0 := by
  have last : (lastInstant : Int) % 1000000 = 999999 := by decide
  rw [Agrees, instant_toSecond]
  constructor
  · intro agree
    obtain ⟨zones, instants⟩ := agree
    have low : 0 ≤ t.instant := by omega
    -- the last microsecond of the calendar is no whole second, so no later instant is met
    have high : t.instant ≤ lastInstant := by
      apply Int.not_lt.mp
      intro after
      rw [clamp_of_gt after] at instants
      omega
    have same := clamp_of_mem low high
    exact ⟨zones.symm, low, high, by omega⟩
  · intro whole
    obtain ⟨zone, low, high, second⟩ := whole
    refine ⟨zone.symm, ?_⟩
    have same := clamp_of_mem low high
    omega

end Timestamp

end EntityHeaders.Calendar
