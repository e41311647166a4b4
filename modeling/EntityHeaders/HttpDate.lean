import EntityHeaders.Calendar.Civil
import EntityHeaders.Text.Blank
import EntityHeaders.Text.Numeral
import EntityHeaders.Text.Quoted
import EntityHeaders.Text.Scan

/-! # Dates in headers

The fixed-length date of HTTP: `Sun, 06 Nov 1994 08:49:37 GMT`.

* `Parts` — the seven words and numbers of such a date as they are written;
  `Parts.text` joins them and `Parts.read?` takes a text apart, by
  `Parts.read?_eq_some_iff` exactly when they have their lengths and kinds.
* `format` — a timestamp as such a date, in UTC and without its microseconds.
* `parse` — the timestamp of such a date.  Blanks around it and the case of its
  names are ignored, and the day of the week need not be the right one.
-/

namespace EntityHeaders.HttpDate

open Calendar (CivilFault Date TimeOfDay Timestamp)
open Text (expect expect_eq_some_iff fixedWidth quote strip takeClass takeClass_eq_some_iff value)

/-! ## Names -/

def weekdayNames : List String :=
  ["Mon", "Tue", "Wed", "Thu", "Fri", "Sat", "Sun"]

def monthNames : List String :=
  ["Jan", "Feb", "Mar", "Apr", "May", "Jun", "Jul", "Aug", "Sep", "Oct", "Nov", "Dec"]

/-- The name of a day of the week, Monday being 0. -/
def weekdayName (weekday : Nat) : List Char :=
  (weekdayNames.getD weekday "").toList

/-- The name of a month, January being 0. -/
def monthName (month : Nat) : List Char :=
  (monthNames.getD month "").toList

/-- A name with its first letter capital and the others small. -/
def titleCase : List Char → List Char
  | [] => []
  | c :: rest => c.toUpper :: rest.map Char.toLower

def isWeekday (name : List Char) : Bool :=
  weekdayNames.contains (String.ofList name)

/-- The month that a name in title case names, January being 0. -/
def month? (name : List Char) : Option (Fin 12) :=
  monthNames.finIdxOf? (String.ofList name)

/-! ## Written parts -/

structure Parts where
  weekday : List Char
  day : List Char
  month : List Char
  year : List Char
  hour : List Char
  minute : List Char
  second : List Char
deriving DecidableEq, Repr

namespace Parts

def text (parts : Parts) : List Char :=
  parts.weekday ++ [',', ' '] ++ parts.day ++ [' '] ++ parts.month ++ [' '] ++ parts.year ++
    [' '] ++ parts.hour ++ [':'] ++ parts.minute ++ [':'] ++ parts.second ++ [' ', 'G', 'M', 'T']

/-- The parts of a written date: names of three letters, a year of four digits
and other numbers of two. -/
def read? (text : List Char) : Option Parts := do
  let (weekday, text) ← takeClass 3 Char.isAlpha text
  let (day, text) ← takeClass 2 Char.isDigit (← expect [',', ' '] text)
  let (month, text) ← takeClass 3 Char.isAlpha (← expect [' '] text)
  let (year, text) ← takeClass 4 Char.isDigit (← expect [' '] text)
  let (hour, text) ← takeClass 2 Char.isDigit (← expect [' '] text)
  let (minute, text) ← takeClass 2 Char.isDigit (← expect [':'] text)
  let (second, text) ← takeClass 2 Char.isDigit (← expect [':'] text)
  if text = [' ', 'G', 'M', 'T'] then
    some { weekday, day, month, year, hour, minute, second }
  else none

structure WellFormed (parts : Parts) : Prop where
  weekday : parts.weekday.length = 3 ∧ parts.weekday.all Char.isAlpha
  day : parts.day.length = 2 ∧ parts.day.all Char.isDigit
  month : parts.month.length = 3 ∧ parts.month.all Char.isAlpha
  year : parts.year.length = 4 ∧ parts.year.all Char.isDigit
  hour : parts.hour.length = 2 ∧ parts.hour.all Char.isDigit
  minute : parts.minute.length = 2 ∧ parts.minute.all Char.isDigit
  second : parts.second.length = 2 ∧ parts.second.all Char.isDigit

def ofDateTime (date : Date) (time : TimeOfDay) : Parts :=
  { weekday := weekdayName date.weekday
    day := fixedWidth 10 2 date.day
    month := monthName (date.month - 1)
    year := fixedWidth 10 4 date.year
    hour := fixedWidth 10 2 time.hour
    minute := fixedWidth 10 2 time.minute
    second := fixedWidth 10 2 time.second }

/-- Reading finds the parts of exactly the texts that well-formed parts make up. -/
theorem read?_eq_some_iff {text : List Char} {parts : Parts} :
    read? text = some parts ↔ text = parts.text ∧ parts.WellFormed := by
  simp only [read?, Option.bind_eq_bind, Option.bind_eq_some_iff, Prod.exists,
    takeClass_eq_some_iff, expect_eq_some_iff, Option.ite_none_right_eq_some, Option.some.injEq]
  constructor
  · rintro ⟨weekday, _, ⟨rfl, hw⟩, _, rfl, day, _, ⟨rfl, hd⟩, _, rfl, month, _, ⟨rfl, hm⟩, _, rfl,
      year, _, ⟨rfl, hy⟩, _, rfl, hour, _, ⟨rfl, hh⟩, _, rfl, minute, _, ⟨rfl, hn⟩, _, rfl,
      second, _, ⟨rfl, hs⟩, rfl, rfl⟩
    exact ⟨by simp [Parts.text], hw, hd, hm, hy, hh, hn, hs⟩
  · rintro ⟨rfl, hw, hd, hm, hy, hh, hn, hs⟩
    exact ⟨parts.weekday, _, ⟨by simp [Parts.text], hw⟩, _, rfl, parts.day, _, ⟨rfl, hd⟩, _, rfl,
      parts.month, _, ⟨rfl, hm⟩, _, rfl, parts.year, _, ⟨rfl, hy⟩, _, rfl, parts.hour, _, ⟨rfl, hh⟩,
      _, rfl, parts.minute, _, ⟨rfl, hn⟩, _, rfl, parts.second, _, ⟨rfl, hs⟩, rfl, rfl⟩

end Parts

/-! ## Faults -/

inductive Fault where
  | shape (text : List Char)
  | weekday (text : List Char)
  | month (text : List Char)
  | civil (fault : CivilFault)
deriving DecidableEq, Repr

def Fault.message : Fault → String
  | shape text => "Not an RFC 1123 date: " ++ String.ofList (quote text)
  | weekday text => "Unknown weekday in date: " ++ String.ofList (quote text)
  | month text => "Unknown month in date: " ++ String.ofList (quote text)
  | civil fault => fault.message

/-! ## Reading and writing -/

/-- The date of a timestamp, in UTC to the second. -/
def format (t : Timestamp) : List Char :=
  let utc := t.toUtc
  (Parts.ofDateTime utc.date utc.time).text

def parse (text : List Char) : Except Fault Timestamp :=
  match Parts.read? (strip text) with
  | none => .error (.shape text)
  | some parts =>
    -- the name must be that of a day, not that of the day of this date
    if !isWeekday (titleCase parts.weekday) then .error (.weekday text)
    else
      match month? (titleCase parts.month) with
      | none => .error (.month text)
      | some month => do
        let date ← (Date.ofCivil (value parts.year) month (value parts.day)).mapError .civil
        let time ← (TimeOfDay.ofCivil (value parts.hour) (value parts.minute)
          (value parts.second)).mapError .civil
        return { date, time, zone := some .utc }

end EntityHeaders.HttpDate
