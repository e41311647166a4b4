import EntityHeaders.Calendar.Timestamp

/-! # Timestamps from written fields

Year, month, day, hour, minute and second as they are written down, checked in
this order; the first that is out of range is the one reported.  A month is
already one of the twelve.
-/

namespace EntityHeaders.Calendar

inductive CivilFault where
  | year (n : Nat)
  | day
  | hour
  | minute
  | second
deriving DecidableEq, Repr

def CivilFault.message : CivilFault → String
  | year n => s!"year {n} is out of range"
  | day => "day is out of range for month"
  | hour => "hour must be in 0..23"
  | minute => "minute must be in 0..59"
  | second => "second must be in 0..59"

/-- The date of a written year, month and day.  January is month 0. -/
def Date.ofCivil (year : Nat) (month : Fin 12) (day : Nat) : Except CivilFault Date :=
  if year_ok : 1 ≤ year ∧ year ≤ 9999 then
    if day_ok : 1 ≤ day ∧ day ≤ daysInMonth year (month.val + 1) then
      .ok
        { year, month := month.val + 1, day
          year_pos := year_ok.1
          year_le := year_ok.2
          month_pos := Nat.le_add_left 1 _
          month_le := month.isLt
          day_pos := day_ok.1
          day_le := day_ok.2 }
    else .error .day
  else .error (.year year)

def TimeOfDay.ofCivil (hour minute second : Nat) : Except CivilFault TimeOfDay :=
  if hour_lt : hour < 24 then
    if minute_lt : minute < 60 then
      if second_lt : second < 60 then
        .ok { midnight with hour, minute, second, hour_lt, minute_lt, second_lt }
      else .error .second
    else .error .minute
  else .error .hour

end EntityHeaders.Calendar
