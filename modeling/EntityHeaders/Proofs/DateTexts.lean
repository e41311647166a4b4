import EntityHeaders.Profile
import EntityHeaders.Proofs.SmallLetters
import EntityHeaders.Proofs.Values

/-! # The texts that are dates

A text is an HTTP date if it meets eight requirements, and it is reported for the first of
them that it does not meet.

* `Spells`, `Denotes` — the parts of which a text is made up, and the timestamp that parts
  stand for; `parse_eq_ok_iff_denotes` says that the reader finds the one by the other.
* `titleCase_eq_iff` — a name is looked up in title case, so its capitals do not matter.
* `Requirement`, `FirstUnmet`, `Refusal` — the requirements in their order, the one that a text
  is reported for, and the words for it.
* `read_http_eq_iff` — which texts are read, and as what, and what is reported of the others.

The work is in `parse_of_unmet`: a requirement is looked at only after those before it, so
what is known of the text grows from one case to the next.
-/

namespace EntityHeaders.HttpDate

open Calendar (CivilFault Date TimeOfDay Timestamp daysInMonth)
open Fallible (error_bind mapError_error mapError_ok ok_bind)
open Text (exists_ofNat_of_lt quote strip value)

/-! ## Names in any capitals -/

theorem toLower_of_not_ascii {c : Char} (high : 128 ≤ c.toNat) : c.toLower = c := by
  have outside : ¬ (c.val ≥ 'A'.val ∧ c.val ≤ 'Z'.val) := by
    simp only [ge_iff_le, UInt32.le_iff_toNat_le]
    change ¬ (65 ≤ c.toNat ∧ c.toNat ≤ 90)
    omega
  exact dif_neg outside

theorem toUpper_of_not_ascii {c : Char} (high : 128 ≤ c.toNat) : c.toUpper = c := by
  have outside : ¬ ('a'.val ≤ c.val ∧ c.val ≤ 'z'.val) := by
    simp only [UInt32.le_iff_toNat_le]
    change ¬ (97 ≤ c.toNat ∧ c.toNat ≤ 122)
    omega
  exact dif_neg outside

/-- Of two changes of a letter only the second one is seen. -/
theorem toLower_toUpper_absorb (c : Char) :
    c.toUpper.toLower = c.toLower ∧ c.toLower.toLower = c.toLower ∧
      c.toLower.toUpper = c.toUpper := by
  by_cases ascii : c.toNat < 128
  · obtain ⟨n, rfl⟩ := exists_ofNat_of_lt ascii
    revert n
    decide +kernel
  · have high := Nat.not_lt.mp ascii
    simp only [toLower_of_not_ascii high, toUpper_of_not_ascii high, and_self]

/-- The same letters, capital or small. -/
def SameLetters (a b : List Char) : Prop :=
  a.map Char.toLower = b.map Char.toLower

theorem sameLetters_titleCase (name : List Char) : SameLetters name (titleCase name) := by
  cases name with
  | nil => rfl
  | cons c rest =>
    simp only [SameLetters, titleCase, List.map_cons, List.map_map]
    rw [(toLower_toUpper_absorb c).1]
    congr 1
    exact List.map_congr_left fun d _ => (toLower_toUpper_absorb d).2.1.symm

theorem titleCase_map_toLower (name : List Char) :
    titleCase (name.map Char.toLower) = titleCase name := by
  cases name with
  | nil => rfl
  | cons c rest =>
    simp only [titleCase, List.map_cons, List.map_map]
    rw [(toLower_toUpper_absorb c).2.2]
    congr 1
    exact List.map_congr_left fun d _ => (toLower_toUpper_absorb d).2.1

theorem titleCase_eq_iff {name title : List Char} (titled : titleCase title = title) :
    titleCase name = title ↔ SameLetters name title := by
  constructor
  · rintro rfl
    exact sameLetters_titleCase name
  · intro same
    calc titleCase name = titleCase (name.map Char.toLower) := (titleCase_map_toLower name).symm
      _ = titleCase (title.map Char.toLower) := by rw [same]
      _ = titleCase title := titleCase_map_toLower title
      _ = title := titled

theorem titleCase_weekdayName {w : Nat} (inside : w < 7) :
    titleCase (weekdayName w) = weekdayName w := by
  revert w
  decide

theorem titleCase_monthName {m : Nat} (inside : m < 12) :
    titleCase (monthName m) = monthName m := by
  revert m
  decide

theorem weekdayName_eq_getElem {w : Nat} (inside : w < weekdayNames.length) :
    weekdayName w = weekdayNames[w].toList := by
  simp [weekdayName, List.getD_eq_getElem?_getD, inside]

theorem monthName_eq_getElem {m : Nat} (inside : m < monthNames.length) :
    monthName m = monthNames[m].toList := by
  simp [monthName, List.getD_eq_getElem?_getD, inside]

/-- The name of a day of the week in any capitals. -/
def NamesWeekday (name : List Char) : Prop :=
  ∃ w < 7, SameLetters name (weekdayName w)

theorem isWeekday_titleCase_iff {name : List Char} :
    isWeekday (titleCase name) = true ↔ NamesWeekday name := by
  constructor
  · intro listed
    obtain ⟨w, inside, found⟩ := List.mem_iff_getElem.mp (List.contains_iff_mem.mp listed)
    refine ⟨w, inside, (titleCase_eq_iff (titleCase_weekdayName inside)).mp ?_⟩
    rw [weekdayName_eq_getElem inside, found, String.toList_ofList]
  · rintro ⟨w, inside, same⟩
    have titled := (titleCase_eq_iff (titleCase_weekdayName inside)).mpr same
    rw [titled, ← titleCase_weekdayName inside]
    exact isWeekday_weekdayName inside

theorem month?_titleCase_iff {name : List Char} {month : Fin 12} :
    month? (titleCase name) = some month ↔ SameLetters name (monthName month) := by
  rw [← titleCase_eq_iff (titleCase_monthName month.isLt)]
  constructor
  · intro found
    have named := (List.finIdxOf?_eq_some_iff.mp found).1
    rw [monthName_eq_getElem month.isLt]
    exact String.toList_ofList.symm.trans (congrArg String.toList named.symm)
  · intro titled
    rw [titled, ← titleCase_monthName month.isLt]
    exact month?_monthName month.isLt

/-! ## Parts and what they stand for -/

/-- The text is made up of these parts, between blanks. -/
def Spells (text : List Char) (parts : Parts) : Prop :=
  strip text = parts.text ∧ parts.WellFormed

theorem spells_iff {text : List Char} {parts : Parts} :
    Spells text parts ↔ Parts.read? (strip text) = some parts :=
  Parts.read?_eq_some_iff.symm

theorem Spells.unique {text : List Char} {parts others : Parts} (spelled : Spells text parts)
    (also : Spells text others) : others = parts :=
  Option.some.inj ((spells_iff.mp also).symm.trans (spells_iff.mp spelled))

/-- The timestamp that parts stand for: their numbers on the clock of UTC.  The day of the
    week may be any. -/
structure Denotes (parts : Parts) (t : Timestamp) : Prop where
  weekday : NamesWeekday parts.weekday
  month : SameLetters parts.month (monthName (t.date.month - 1))
  year : value parts.year = t.date.year
  day : value parts.day = t.date.day
  hour : value parts.hour = t.time.hour
  minute : value parts.minute = t.time.minute
  second : value parts.second = t.time.second
  micro : t.time.micro = 0
  zone : t.zone = some .utc

theorem ofCivil_date_eq_ok_iff {year day : Nat} {month : Fin 12} {date : Date} :
    Date.ofCivil year month day = .ok date ↔
      year = date.year ∧ month.val = date.month - 1 ∧ day = date.day := by
  constructor
  · intro made
    unfold Date.ofCivil at made
    split at made
    · split at made
      · obtain rfl := Except.ok.inj made
        exact ⟨rfl, rfl, rfl⟩
      · cases made
    · cases made
  · rintro ⟨rfl, index, rfl⟩
    obtain rfl : month = ⟨date.month - 1, month_index_lt date⟩ := Fin.ext index
    exact ofCivil_date date

theorem ofCivil_time_eq_ok_iff {hour minute second : Nat} {time : TimeOfDay} :
    TimeOfDay.ofCivil hour minute second = .ok time ↔
      hour = time.hour ∧ minute = time.minute ∧ second = time.second ∧ time.micro = 0 := by
  constructor
  · intro made
    unfold TimeOfDay.ofCivil at made
    repeat' split at made
    all_goals cases made
    exact ⟨rfl, rfl, rfl, rfl⟩
  · rintro ⟨rfl, rfl, rfl, whole⟩
    obtain ⟨hour, minute, second, micro, _, _, _, _⟩ := time
    cases whole
    exact ofCivil_time _

theorem parse_eq_ok_iff_denotes {text : List Char} {t : Timestamp} :
    parse text = .ok t ↔ ∃ parts, Spells text parts ∧ Denotes parts t := by
  simp only [parse_eq_ok_iff, isWeekday_titleCase_iff, month?_titleCase_iff,
    ofCivil_date_eq_ok_iff, ofCivil_time_eq_ok_iff, ← spells_iff]
  constructor
  · rintro ⟨parts, month, spelled, weekday, named, ⟨year, index, day⟩,
      ⟨hour, minute, second, micro⟩, zone⟩
    exact ⟨parts, spelled, weekday, index ▸ named, year, day, hour, minute, second, micro, zone⟩
  · rintro ⟨parts, spelled, weekday, named, year, day, hour, minute, second, micro, zone⟩
    exact ⟨parts, ⟨_, month_index_lt t.date⟩, spelled, weekday, named, ⟨year, rfl, day⟩,
      ⟨hour, minute, second, micro⟩, zone⟩

/-! ## Requirements -/

/-- What a text has to satisfy to be a date. -/
inductive Requirement where
  | shape
  | weekday
  | month
  | year
  | day
  | hour
  | minute
  | second
deriving DecidableEq

namespace Requirement

/-- All requirements, in the order in which they are looked at. -/
def all : List Requirement :=
  [shape, weekday, month, year, day, hour, minute, second]

theorem mem_all (r : Requirement) : r ∈ all := by
  cases r <;> decide

def earlier (r : Requirement) : List Requirement :=
  all.takeWhile (· ≠ r)

/-- The requirement as one on the parts of a text, which has its shape if it has parts. -/
def MetBy (parts : Parts) : Requirement → Prop
  | shape => True
  | weekday => NamesWeekday parts.weekday
  | month => ∃ m < 12, SameLetters parts.month (monthName m)
  | year => 1 ≤ value parts.year
  | day => ∃ m < 12, SameLetters parts.month (monthName m) ∧
      1 ≤ value parts.day ∧ value parts.day ≤ daysInMonth (value parts.year) (m + 1)
  | hour => value parts.hour ≤ 23
  | minute => value parts.minute ≤ 59
  | second => value parts.second ≤ 59

def Met (text : List Char) (r : Requirement) : Prop :=
  ∃ parts, Spells text parts ∧ r.MetBy parts

/-- What is reported of a text that does not meet the requirement. -/
def fault (text : List Char) : Requirement → Fault
  | shape => .shape text
  | weekday => .weekday text
  | month => .month text
  | year => .civil (.year 0)
  | day => .civil .day
  | hour => .civil .hour
  | minute => .civil .minute
  | second => .civil .second

/-- What is said of a text that does not meet the requirement: the text is shown, with blanks
    and all, unless it is one of its numbers that is out of range. -/
inductive Refusal : Requirement → List Char → String → Prop
  | shape {text : List Char} :
      Refusal shape text ("Not an RFC 1123 date: " ++ String.ofList (quote text))
  | weekday {text : List Char} :
      Refusal weekday text ("Unknown weekday in date: " ++ String.ofList (quote text))
  | month {text : List Char} :
      Refusal month text ("Unknown month in date: " ++ String.ofList (quote text))
  | year {text : List Char} : Refusal year text "year 0 is out of range"
  | day {text : List Char} : Refusal day text "day is out of range for month"
  | hour {text : List Char} : Refusal hour text "hour must be in 0..23"
  | minute {text : List Char} : Refusal minute text "minute must be in 0..59"
  | second {text : List Char} : Refusal second text "second must be in 0..59"

theorem refusal_of_fault (r : Requirement) (text : List Char) :
    r.Refusal text (r.fault text).message := by
  cases r <;> constructor

theorem Refusal.unique {r : Requirement} {text : List Char} {message other : String}
    (said : r.Refusal text message) (also : r.Refusal text other) : message = other := by
  cases said <;> cases also <;> rfl

/-- The first requirement, in their order, that the text does not meet. -/
structure FirstUnmet (text : List Char) (r : Requirement) : Prop where
  unmet : ¬ r.Met text
  earlier : ∀ q ∈ r.earlier, q.Met text

theorem met_iff {text : List Char} {parts : Parts} (spelled : Spells text parts)
    (r : Requirement) : r.Met text ↔ r.MetBy parts := by
  constructor
  · rintro ⟨others, also, met⟩
    exact spelled.unique also ▸ met
  · intro met
    exact ⟨parts, spelled, met⟩

end Requirement

open Requirement (FirstUnmet Met MetBy)

theorem exists_first_not {α : Type} [DecidableEq α] {holds : α → Prop} {l : List α}
    (some : ∃ a ∈ l, ¬ holds a) :
    ∃ a ∈ l, ¬ holds a ∧ ∀ b ∈ l.takeWhile (· ≠ a), holds b := by
  induction l with
  | nil => simp at some
  | cons first rest ih =>
    by_cases met : holds first
    · obtain ⟨a, mem, unmet, earlier⟩ := ih (by simpa [met] using some)
      have other : first ≠ a := by
        rintro rfl
        exact unmet met
      exact ⟨a, by simp [mem], unmet, by simpa [other, met] using earlier⟩
    · exact ⟨first, by simp, met, by simp⟩

theorem exists_firstUnmet {text : List Char} (unmet : ¬ ∀ r : Requirement, r.Met text) :
    ∃ r, FirstUnmet text r := by
  obtain ⟨r, fails⟩ := Classical.not_forall.mp unmet
  obtain ⟨first, -, unmet, earlier⟩ := exists_first_not ⟨r, r.mem_all, fails⟩
  exact ⟨first, unmet, earlier⟩

/-! ## What is reported -/

theorem value_lt_of_digits {digits : List Char} (all : digits.all Char.isDigit) (init : Nat) :
    Nat.ofDigitChars 10 digits init < (init + 1) * Nat.pow 10 digits.length := by
  induction digits generalizing init with
  | nil => simp
  | cons c rest ih =>
    simp only [List.all_cons, Bool.and_eq_true] at all
    have digit : c.toNat - '0'.toNat ≤ 9 := by
      have range := Text.toNat_of_isDigit all.1
      simp only [Char.reduceToNat]
      omega
    have later := ih all.2 (10 * init + (c.toNat - '0'.toNat))
    rw [Nat.ofDigitChars_cons, List.length_cons]
    calc _ < (10 * init + (c.toNat - '0'.toNat) + 1) * Nat.pow 10 rest.length := later
      _ ≤ ((init + 1) * 10) * Nat.pow 10 rest.length := Nat.mul_le_mul_right _ (by omega)
      _ = (init + 1) * (Nat.pow 10 rest.length * 10) := by rw [Nat.mul_assoc, Nat.mul_comm 10]

theorem year_le {parts : Parts} (formed : parts.WellFormed) : value parts.year ≤ 9999 := by
  have below := value_lt_of_digits formed.year.2 0
  rw [formed.year.1] at below
  exact Nat.le_of_lt_succ below

theorem parse_of_spells {text : List Char} {parts : Parts} {month : Nat}
    (spelled : Spells text parts) (weekday : NamesWeekday parts.weekday) (inside : month < 12)
    (named : SameLetters parts.month (monthName month)) :
    parse text = (do
      let date ← (Date.ofCivil (value parts.year) ⟨month, inside⟩ (value parts.day)).mapError .civil
      let time ← (TimeOfDay.ofCivil (value parts.hour) (value parts.minute)
        (value parts.second)).mapError .civil
      return { date, time, zone := some .utc }) := by
  have found : month? (titleCase parts.month) = some ⟨month, inside⟩ :=
    month?_titleCase_iff.mpr named
  simp only [parse, spells_iff.mp spelled, isWeekday_titleCase_iff.mpr weekday, found,
    Bool.not_true, Bool.false_eq_true, if_false]

theorem ofCivil_date_of_day {year month day : Nat} (inside : month < 12)
    (year_ok : 1 ≤ year ∧ year ≤ 9999) (odd : ¬ (1 ≤ day ∧ day ≤ daysInMonth year (month + 1))) :
    Date.ofCivil year ⟨month, inside⟩ day = .error .day := by
  rw [Date.ofCivil, dif_pos year_ok, dif_neg odd]

/-- Once the date is complete, the time is left. -/
theorem exists_parse_of_date {text : List Char} {parts : Parts} (spelled : Spells text parts)
    (weekday : MetBy parts .weekday) (year : MetBy parts .year) (day : MetBy parts .day) :
    ∃ date, parse text = (do
      let time ← (TimeOfDay.ofCivil (value parts.hour) (value parts.minute)
        (value parts.second)).mapError .civil
      return { date, time, zone := some .utc }) := by
  obtain ⟨month, inside, named, day_ok⟩ := day
  rw [parse_of_spells spelled weekday inside named, Date.ofCivil,
    dif_pos ⟨year, year_le spelled.2⟩, dif_pos day_ok]
  exact ⟨_, rfl⟩

theorem ofCivil_time_of_hour {hour : Nat} (late : ¬ hour < 24) (minute second : Nat) :
    TimeOfDay.ofCivil hour minute second = .error .hour :=
  dif_neg late

theorem ofCivil_time_of_minute {hour minute : Nat} (hour_lt : hour < 24) (late : ¬ minute < 60)
    (second : Nat) : TimeOfDay.ofCivil hour minute second = .error .minute := by
  rw [TimeOfDay.ofCivil, dif_pos hour_lt, dif_neg late]

theorem ofCivil_time_of_second {hour minute second : Nat} (hour_lt : hour < 24)
    (minute_lt : minute < 60) (late : ¬ second < 60) :
    TimeOfDay.ofCivil hour minute second = .error .second := by
  rw [TimeOfDay.ofCivil, dif_pos hour_lt, dif_pos minute_lt, dif_neg late]

/-- Of a text with the shape of a date the first requirement that its parts do not meet is
    reported. -/
theorem parse_of_unmet {text : List Char} {parts : Parts} {r : Requirement}
    (spelled : Spells text parts) (unmet : ¬ r.MetBy parts)
    (earlier : ∀ q ∈ r.earlier, q.MetBy parts) : parse text = .error (r.fault text) := by
  have taken := spells_iff.mp spelled
  -- each case knows of the requirements before its own that they are met
  cases r with
  | shape => exact absurd trivial unmet
  | weekday =>
    have unnamed : isWeekday (titleCase parts.weekday) = false := by
      rw [Bool.eq_false_iff, ne_eq, isWeekday_titleCase_iff]
      exact unmet
    simp [parse, taken, unnamed, Requirement.fault]
  | month =>
    have weekday : NamesWeekday parts.weekday := earlier .weekday (by decide)
    have unnamed : month? (titleCase parts.month) = none := by
      apply Option.eq_none_iff_forall_ne_some.mpr
      intro m found
      exact unmet ⟨m, m.isLt, month?_titleCase_iff.mp found⟩
    simp [parse, taken, isWeekday_titleCase_iff.mpr weekday, unnamed, Requirement.fault]
  | year =>
    obtain ⟨month, inside, named⟩ := earlier .month (by decide)
    have zero : value parts.year = 0 := Nat.eq_zero_of_not_pos unmet
    rw [parse_of_spells spelled (earlier .weekday (by decide)) inside named, zero]
    rfl
  | day =>
    obtain ⟨month, inside, named⟩ := earlier .month (by decide)
    have year_ok := And.intro (earlier .year (by decide)) (year_le spelled.2)
    have odd : ¬ (1 ≤ value parts.day ∧
        value parts.day ≤ daysInMonth (value parts.year) (month + 1)) :=
      fun fits => unmet ⟨month, inside, named, fits⟩
    rw [parse_of_spells spelled (earlier .weekday (by decide)) inside named,
      ofCivil_date_of_day inside year_ok odd]
    rfl
  | hour =>
    obtain ⟨date, timed⟩ := exists_parse_of_date spelled (earlier .weekday (by decide))
      (earlier .year (by decide)) (earlier .day (by decide))
    rw [timed, ofCivil_time_of_hour fun hour_lt => unmet (Nat.le_of_lt_succ hour_lt)]
    rfl
  | minute =>
    obtain ⟨date, timed⟩ := exists_parse_of_date spelled (earlier .weekday (by decide))
      (earlier .year (by decide)) (earlier .day (by decide))
    have hour_lt := Nat.lt_succ_of_le (earlier .hour (by decide))
    rw [timed, ofCivil_time_of_minute hour_lt fun minute_lt => unmet (Nat.le_of_lt_succ minute_lt)]
    rfl
  | second =>
    obtain ⟨date, timed⟩ := exists_parse_of_date spelled (earlier .weekday (by decide))
      (earlier .year (by decide)) (earlier .day (by decide))
    have hour_lt := Nat.lt_succ_of_le (earlier .hour (by decide))
    have minute_lt := Nat.lt_succ_of_le (earlier .minute (by decide))
    rw [timed, ofCivil_time_of_second hour_lt minute_lt
      fun second_lt => unmet (Nat.le_of_lt_succ second_lt)]
    rfl

theorem parse_of_firstUnmet {text : List Char} {r : Requirement} (first : FirstUnmet text r) :
    parse text = .error (r.fault text) := by
  by_cases formed : ∃ parts, Spells text parts
  · obtain ⟨parts, spelled⟩ := formed
    exact parse_of_unmet spelled (fun met => first.unmet ⟨parts, spelled, met⟩)
      fun q mem => (Requirement.met_iff spelled q).mp (first.earlier q mem)
  · -- without the shape no requirement is met, so the first of all is the first unmet
    have unformed : Parts.read? (strip text) = none :=
      Option.eq_none_iff_forall_ne_some.mpr fun parts taken => formed ⟨parts, spells_iff.mpr taken⟩
    have shape : r = .shape := by
      apply Classical.byContradiction
      intro later
      have mem : Requirement.shape ∈ r.earlier := by
        cases r <;> first | decide | exact absurd rfl later
      obtain ⟨parts, spelled, -⟩ := first.earlier .shape mem
      exact formed ⟨parts, spelled⟩
    simp [parse, unformed, shape, Requirement.fault]

/-! ## What is read -/

theorem Denotes.metBy {parts : Parts} {t : Timestamp} (denoted : Denotes parts t)
    (r : Requirement) : r.MetBy parts := by
  have inside := month_index_lt t.date
  cases r with
  | shape => trivial
  | weekday => exact denoted.weekday
  | month => exact ⟨_, inside, denoted.month⟩
  | year =>
    rw [MetBy, denoted.year]
    exact t.date.year_pos
  | day =>
    refine ⟨_, inside, denoted.month, denoted.day ▸ t.date.day_pos, ?_⟩
    rw [denoted.day, denoted.year, Nat.sub_add_cancel t.date.month_pos]
    exact t.date.day_le
  | hour =>
    rw [MetBy, denoted.hour]
    exact Nat.le_of_lt_succ t.time.hour_lt
  | minute =>
    rw [MetBy, denoted.minute]
    exact Nat.le_of_lt_succ t.time.minute_lt
  | second =>
    rw [MetBy, denoted.second]
    exact Nat.le_of_lt_succ t.time.second_lt

theorem exists_denotes {text : List Char} (met : ∀ r : Requirement, r.Met text) :
    ∃ parts t, Spells text parts ∧ Denotes parts t := by
  obtain ⟨parts, spelled, -⟩ := met .shape
  have by_parts : ∀ r : Requirement, r.MetBy parts := fun r =>
    (Requirement.met_iff spelled r).mp (met r)
  obtain ⟨month, inside, named, day_pos, day_le⟩ := by_parts .day
  let date : Date :=
    { year := value parts.year, month := month + 1, day := value parts.day
      year_pos := by_parts .year
      year_le := year_le spelled.2
      month_pos := Nat.le_add_left 1 month
      month_le := inside
      day_pos
      day_le }
  let time : TimeOfDay :=
    { hour := value parts.hour, minute := value parts.minute, second := value parts.second
      micro := 0
      hour_lt := Nat.lt_succ_of_le (by_parts .hour)
      minute_lt := Nat.lt_succ_of_le (by_parts .minute)
      second_lt := Nat.lt_succ_of_le (by_parts .second) }
  refine ⟨parts, { date, time, zone := some .utc }, spelled, ?_⟩
  exact ⟨by_parts .weekday, named, rfl, rfl, rfl, rfl, rfl, rfl, rfl⟩

theorem parse_eq_error_iff {text : List Char} {fault : Fault} :
    parse text = .error fault ↔ ∃ r, FirstUnmet text r ∧ fault = r.fault text := by
  constructor
  · intro failed
    have unmet : ¬ ∀ r : Requirement, r.Met text := by
      intro met
      obtain ⟨parts, t, denoted⟩ := exists_denotes met
      rw [parse_eq_ok_iff_denotes.mpr ⟨parts, denoted⟩] at failed
      cases failed
    obtain ⟨r, first⟩ := exists_firstUnmet unmet
    rw [parse_of_firstUnmet first] at failed
    exact ⟨r, first, (Except.error.inj failed).symm⟩
  · rintro ⟨r, first, rfl⟩
    exact parse_of_firstUnmet first

theorem read_http_eq_ok_iff {text : String} {timestamp : Option Timestamp} :
    DateFormat.http.read text = .ok timestamp ↔
      ∃ t, parse text.toList = .ok t ∧ timestamp = some t := by
  simp only [DateFormat.http]
  cases parse text.toList <;> simp [eq_comm]

theorem read_http_eq_error_iff {text : String} {failure : DateFormat.Failure} :
    DateFormat.http.read text = .error failure ↔
      ∃ fault, parse text.toList = .error fault ∧ failure = .rejected fault.message := by
  simp only [DateFormat.http]
  cases parse text.toList <;> simp [eq_comm]

/-- A text is read if and only if it meets all requirements, and then as the timestamp that
    its parts stand for, whatever day of the week it names.  Any other text is rejected in the
    words about the first requirement that it does not meet. -/
theorem read_http_eq_iff (text : String) :
    ((∃ timestamp, DateFormat.http.read text = .ok timestamp) ↔
      ∀ r : Requirement, r.Met text.toList) ∧
    (∀ timestamp, DateFormat.http.read text = .ok timestamp ↔
      ∃ parts t, Spells text.toList parts ∧ Denotes parts t ∧ timestamp = some t) ∧
    ∀ failure, DateFormat.http.read text = .error failure ↔
      ∃ r message, FirstUnmet text.toList r ∧ r.Refusal text.toList message ∧
        failure = .rejected message := by
  have accepts : ∀ timestamp, DateFormat.http.read text = .ok timestamp ↔
      ∃ parts t, Spells text.toList parts ∧ Denotes parts t ∧ timestamp = some t := by
    intro timestamp
    rw [read_http_eq_ok_iff]
    constructor
    · rintro ⟨t, parsed, rfl⟩
      obtain ⟨parts, spelled, denoted⟩ := parse_eq_ok_iff_denotes.mp parsed
      exact ⟨parts, t, spelled, denoted, rfl⟩
    · rintro ⟨parts, t, spelled, denoted, rfl⟩
      exact ⟨t, parse_eq_ok_iff_denotes.mpr ⟨parts, spelled, denoted⟩, rfl⟩
  refine ⟨⟨?_, ?_⟩, accepts, ?_⟩
  · rintro ⟨timestamp, read⟩ r
    obtain ⟨parts, t, spelled, denoted, -⟩ := (accepts timestamp).mp read
    exact ⟨parts, spelled, denoted.metBy r⟩
  · intro met
    obtain ⟨parts, t, spelled, denoted⟩ := exists_denotes met
    exact ⟨some t, (accepts (some t)).mpr ⟨parts, t, spelled, denoted, rfl⟩⟩
  · intro failure
    rw [read_http_eq_error_iff]
    constructor
    · rintro ⟨fault, failed, rfl⟩
      obtain ⟨r, first, rfl⟩ := parse_eq_error_iff.mp failed
      exact ⟨r, _, first, r.refusal_of_fault _, rfl⟩
    · rintro ⟨r, message, first, said, rfl⟩
      refine ⟨_, parse_of_firstUnmet first, ?_⟩
      rw [said.unique (r.refusal_of_fault _)]

end EntityHeaders.HttpDate
