/-! # Times of day

A time of day to the microsecond.  `micros` counts the microseconds since
midnight, and `ofMicros` finds the time of a count; they undo each other.
-/

namespace EntityHeaders.Calendar

structure TimeOfDay where
  hour : Nat
  minute : Nat
  second : Nat
  micro : Nat
  hour_lt : hour < 24 := by decide
  minute_lt : minute < 60 := by decide
  second_lt : second < 60 := by decide
  micro_lt : micro < 1000000 := by decide
deriving DecidableEq

def microsPerDay : Nat := 86400000000

namespace TimeOfDay

def midnight : TimeOfDay :=
  { hour := 0, minute := 0, second := 0, micro := 0 }

def micros (time : TimeOfDay) : Nat :=
  ((time.hour * 60 + time.minute) * 60 + time.second) * 1000000 + time.micro

theorem hour_of_micros {n : Nat} (inside : n < microsPerDay) : n / 3600000000 < 24 := by
  unfold microsPerDay at inside
  omega

/-- The time that is `n` microseconds after midnight. -/
def ofMicros (n : Nat) (inside : n < microsPerDay) : TimeOfDay :=
  { hour := n / 3600000000
    minute := n / 60000000 % 60
    second := n / 1000000 % 60
    micro := n % 1000000
    hour_lt := hour_of_micros inside
    minute_lt := Nat.mod_lt _ (Nat.succ_pos _)
    second_lt := Nat.mod_lt _ (Nat.succ_pos _)
    micro_lt := Nat.mod_lt _ (Nat.succ_pos _) }

theorem micros_ofMicros (n : Nat) (inside : n < microsPerDay) :
    (ofMicros n inside).micros = n := by
  simp only [micros, ofMicros]
  omega

theorem micros_lt (time : TimeOfDay) : time.micros < microsPerDay := by
  have := time.hour_lt
  have := time.minute_lt
  have := time.second_lt
  have := time.micro_lt
  unfold micros microsPerDay
  omega

theorem ofMicros_micros (time : TimeOfDay) : ofMicros time.micros time.micros_lt = time := by
  obtain ⟨h, m, s, u, _, _, _, _⟩ := time
  simp only [ofMicros, micros, TimeOfDay.mk.injEq]
  omega

end TimeOfDay

end EntityHeaders.Calendar
