import EntityHeaders.Calendar.Date
import EntityHeaders.Calendar.TimeOfDay

/-! # Timestamps

A date and a time of day, with the offset of the local clock from UTC or without
one.  A timestamp without an offset is read as UTC wherever an instant is needed,
but it never agrees with one that has an offset.

* `instant` — microseconds since the first midnight of the calendar, in UTC.
* `ofInstant?`, `ofInstant` — the UTC timestamp of an instant; an instant before or
  after the calendar has none, or the first or the last one.
* `toUtc` — the same instant on the clock of UTC, as far as the calendar goes.
* `Agrees` — equality of timestamps as points in time.
-/

namespace EntityHeaders.Calendar

/-- An offset from UTC, less than a day either way. -/
structure Offset where
  micros : Int
  gt_day : -(microsPerDay : Int) < micros := by decide
  lt_day : micros < microsPerDay := by decide
deriving DecidableEq

def Offset.utc : Offset :=
  { micros := 0 }

structure Timestamp where
  date : Date
  time : TimeOfDay
  zone : Option Offset
deriving DecidableEq

namespace Timestamp

def epoch : Timestamp :=
  { date := { year := 1970, month := 1, day := 1 }
    time := .midnight
    zone := some .utc }

/-! ## Instants -/

/-- The microseconds by which the clock is ahead of UTC. -/
def shift (t : Timestamp) : Int :=
  match t.zone with
  | some offset => offset.micros
  | none => 0

/-- Microseconds from the first midnight of the calendar in UTC. -/
def instant (t : Timestamp) : Int :=
  (t.date.dayNumber * microsPerDay + t.time.micros : Nat) - t.shift

def lastInstant : Nat :=
  Date.count * microsPerDay - 1

/-- The microsecond of the calendar nearest to an instant. -/
def clamp (instant : Int) : Nat :=
  min instant.toNat lastInstant

theorem clamp_le (instant : Int) : clamp instant ≤ lastInstant :=
  Nat.min_le_right _ _

theorem day_of_micros {n : Nat} (inside : n ≤ lastInstant) : n / microsPerDay < Date.count := by
  simp only [lastInstant, Date.count, microsPerDay] at inside ⊢
  omega

theorem time_of_micros (n : Nat) : n % microsPerDay < microsPerDay :=
  Nat.mod_lt _ (by decide)

theorem toNat_le_lastInstant {instant : Int} (inside : 0 ≤ instant ∧ instant ≤ lastInstant) :
    instant.toNat ≤ lastInstant := by
  omega

/-- The timestamp in UTC that is `n` microseconds after the first midnight. -/
def ofMicros (n : Nat) (inside : n ≤ lastInstant) : Timestamp :=
  { date := .ofDayNumber (n / microsPerDay) (day_of_micros inside)
    time := .ofMicros (n % microsPerDay) (time_of_micros n)
    zone := some .utc }

/-- The timestamp in UTC of an instant, if the calendar has it. -/
def ofInstant? (instant : Int) : Option Timestamp :=
  if inside : 0 ≤ instant ∧ instant ≤ lastInstant then
    some (ofMicros instant.toNat (toNat_le_lastInstant inside))
  else none

def ofInstant (instant : Int) : Timestamp :=
  ofMicros (clamp instant) (clamp_le instant)

def first : Timestamp :=
  { date := { year := 1, month := 1, day := 1 }
    time := .midnight
    zone := some .utc }

def last : Timestamp :=
  { date := { year := 9999, month := 12, day := 31 }
    time := { hour := 23, minute := 59, second := 59, micro := 999999 }
    zone := some .utc }

/-- The same instant on the clock of UTC, as far as the calendar goes. -/
def toUtc (t : Timestamp) : Timestamp :=
  match t.zone with
  -- a clock without an offset is taken for that of UTC
  | none => { t with zone := some .utc }
  | some offset =>
    match ofInstant? t.instant with
    | some utc => utc
    -- the clock is within the calendar, so the offset tells where its instant has left it
    | none => if 0 < offset.micros then first else last

theorem clamp_of_mem {instant : Int} (low : 0 ≤ instant) (high : instant ≤ lastInstant) :
    (clamp instant : Int) = instant := by
  unfold clamp
  omega

@[simp]
theorem instant_ofMicros (n : Nat) (inside : n ≤ lastInstant) :
    (ofMicros n inside).instant = n := by
  simp only [Timestamp.instant, ofMicros, shift, Offset.utc, Date.dayNumber_ofDayNumber,
    TimeOfDay.micros_ofMicros]
  rw [Nat.mul_comm, Nat.div_add_mod, Int.sub_zero]

@[simp]
theorem instant_ofInstant (instant : Int) : (ofInstant instant).instant = clamp instant :=
  instant_ofMicros _ _

/-! ## Agreement -/

/-- Both have an offset or neither has, and they are the same instant. -/
def Agrees (a b : Timestamp) : Prop :=
  a.zone.isSome = b.zone.isSome ∧ a.instant = b.instant

instance (a b : Timestamp) : Decidable (a.Agrees b) :=
  inferInstanceAs (Decidable (_ ∧ _))

end Timestamp

end EntityHeaders.Calendar
