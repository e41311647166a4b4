import EntityHeaders.Proofs.DateTexts
import EntityHeaders.Proofs.UniversalTime

/-! # The texts that are written for dates

A date is read leniently and written in one way.  Written again, the text of a date keeps its
numbers, and its two names are put right: the month in title case, and the day of the week that
the date falls on.

* `ofDateTime_of_denotes` — the parts that are written for what other parts denote.
* `Proper` — a text that nothing has to be put right in.
* `written_iff_proper` — the proper texts are the ones that are written, and those that are written
  again as they are.
-/

namespace EntityHeaders

open Calendar (Date Timestamp)
open Text (fixedWidth_value strip)

namespace HttpDate

/-! ## Names put right -/

/-- The parts with the month in title case and the name of this day of the week. -/
def Parts.named (parts : Parts) (weekday : Nat) : Parts :=
  { parts with weekday := weekdayName weekday, month := titleCase parts.month }

theorem ofDateTime_of_denotes {parts : Parts} {t : Timestamp} (formed : parts.WellFormed)
    (denoted : Denotes parts t) :
    Parts.ofDateTime t.date t.time = parts.named t.date.weekday := by
  have month := (titleCase_eq_iff (titleCase_monthName (month_index_lt t.date))).mpr denoted.month
  rw [Parts.ofDateTime, Parts.named, month, ← denoted.year, ← denoted.day, ← denoted.hour,
    ← denoted.minute, ← denoted.second]
  rw [fixedWidth_value formed.year.1 formed.year.2,
    fixedWidth_value formed.day.1 formed.day.2,
    fixedWidth_value formed.hour.1 formed.hour.2,
    fixedWidth_value formed.minute.1 formed.minute.2,
    fixedWidth_value formed.second.1 formed.second.2]

theorem format_of_utc {t : Timestamp} (utc : t.zone = some .utc) :
    format t = (Parts.ofDateTime t.date t.time).text := by
  simp only [format, Timestamp.toUtc_of_utc utc]

/-- What is read of a text is written with the names put right and all else as it was. -/
theorem format_of_parse {text : List Char} {t : Timestamp} (parsed : parse text = .ok t) :
    ∃ parts, Spells text parts ∧ format t = (parts.named t.date.weekday).text := by
  obtain ⟨parts, spelled, denoted⟩ := parse_eq_ok_iff_denotes.mp parsed
  refine ⟨parts, spelled, ?_⟩
  rw [format_of_utc denoted.zone, ofDateTime_of_denotes spelled.2 denoted]

theorem parse_of_read {text : String} {t : Timestamp}
    (read : DateFormat.http.read text = .ok (some t)) : parse text.toList = .ok t := by
  obtain ⟨_, parsed, same⟩ := read_http_eq_ok_iff.mp read
  cases same
  exact parsed

/-! ## Proper texts -/

/-- The text is a date between no blanks, whose two names are in title case and whose day of the
    week is the one that the date falls on. -/
structure Proper (text : String) (parts : Parts) (t : Timestamp) : Prop where
  read : DateFormat.http.read text = .ok (some t)
  bare : strip text.toList = text.toList
  spelled : Spells text.toList parts
  weekday_titled : titleCase parts.weekday = parts.weekday
  month_titled : titleCase parts.month = parts.month
  weekday : ∃ w, t.date.FallsOn w ∧ SameLetters parts.weekday (weekdayName w)

theorem Proper.write_eq {text : String} {parts : Parts} {t : Timestamp}
    (proper : Proper text parts t) : DateFormat.http.write t = .ok text := by
  obtain ⟨others, spelled, written⟩ := format_of_parse (parse_of_read proper.read)
  obtain ⟨w, falls, same⟩ := proper.weekday
  have inside : t.date.weekday < 7 := Nat.mod_lt _ (by decide)
  rw [Date.fallsOn_iff.mp falls] at same
  have weekday : parts.weekday = weekdayName t.date.weekday := by
    rw [← proper.weekday_titled]
    exact (titleCase_eq_iff (titleCase_weekdayName inside)).mpr same
  have unchanged : parts.named t.date.weekday = parts := by
    rw [Parts.named, proper.month_titled, ← weekday]
  have same : format t = text.toList := by
    rw [written, proper.spelled.unique spelled, unchanged, ← proper.spelled.1, proper.bare]
  rw [DateFormat.write_http, same, String.ofList_toList]

/-- Whatever is written is proper, and stands for what is left of the timestamp. -/
theorem proper_write {t : Timestamp} {text : String}
    (written : DateFormat.http.write t = .ok text) : ∃ parts, Proper text parts t.toSecond := by
  obtain rfl := Except.ok.inj written
  have formed := wellFormed_ofDateTime t.toUtc.date t.toUtc.time
  have inside : t.toUtc.date.weekday < 7 := Nat.mod_lt _ (by decide)
  have date : t.toSecond.date = t.toUtc.date := by
    rw [Timestamp.toUtc_eq_ofInstant]
    rfl
  have text : (String.ofList (format t)).toList =
      (Parts.ofDateTime t.toUtc.date t.toUtc.time).text := String.toList_ofList
  have bare := strip_text formed
  rw [← text] at bare
  refine ⟨Parts.ofDateTime t.toUtc.date t.toUtc.time, ?_⟩
  exact {
    read := read_http_eq_ok_iff.mpr ⟨_, by rw [text]; exact parse_format t, rfl⟩
    bare
    spelled := ⟨bare.trans text, formed⟩
    weekday_titled := titleCase_weekdayName inside
    month_titled := titleCase_monthName (month_index_lt _)
    weekday := ⟨_, Date.fallsOn_iff.mpr rfl, by rw [date]; rfl⟩ }

/-- What is read of a text is written as the same text without blanks, the names put right.  A
    text is one that is written if and only if it is proper, and these are the texts that are
    written again as they are. -/
theorem written_iff_proper (text : String) :
    (∀ t, DateFormat.http.read text = .ok (some t) →
      ∃ parts w, Spells text.toList parts ∧ t.date.FallsOn w ∧
        DateFormat.http.write t = .ok (String.ofList (parts.named w).text)) ∧
    ((∃ t, DateFormat.http.write t = .ok text) ↔ ∃ parts t, Proper text parts t) ∧
    ((∃ t, DateFormat.http.read text = .ok (some t) ∧ DateFormat.http.write t = .ok text) ↔
      ∃ parts t, Proper text parts t) := by
  refine ⟨?_, ⟨?_, ?_⟩, ⟨?_, ?_⟩⟩
  · intro t read
    obtain ⟨parts, spelled, written⟩ := format_of_parse (parse_of_read read)
    refine ⟨parts, _, spelled, Date.fallsOn_iff.mpr rfl, ?_⟩
    rw [DateFormat.write_http, written]
  · rintro ⟨t, written⟩
    obtain ⟨parts, proper⟩ := proper_write written
    exact ⟨parts, _, proper⟩
  · rintro ⟨parts, t, proper⟩
    exact ⟨t, proper.write_eq⟩
  · rintro ⟨t, -, written⟩
    obtain ⟨parts, proper⟩ := proper_write written
    exact ⟨parts, _, proper⟩
  · rintro ⟨parts, t, proper⟩
    exact ⟨t, proper.read, proper.write_eq⟩

/-- A leap day that was a Tuesday, under another name and in odd capitals. -/
def misnamedDate : String :=
  " mON, 29 fEB 2000 23:59:59 GMT\t"

theorem written_iff_proper_misnamed :
    ∃ t, DateFormat.http.read misnamedDate = .ok (some t) ∧
      DateFormat.http.write t = .ok "Tue, 29 Feb 2000 23:59:59 GMT" := by
  obtain ⟨t, read, date⟩ : ∃ t, DateFormat.http.read misnamedDate = .ok (some t) ∧
      t.date = { year := 2000, month := 2, day := 29 } := ⟨_, rfl, rfl⟩
  obtain ⟨parts, w, spelled, falls, written⟩ := (written_iff_proper misnamedDate).1 t read
  have weekday : w = 1 := by
    rw [Date.fallsOn_iff.mp falls, date]
    decide
  have taken : Parts.read? (strip misnamedDate.toList) = some
      { weekday := "mON".toList, day := "29".toList, month := "fEB".toList, year := "2000".toList
        hour := "23".toList, minute := "59".toList, second := "59".toList } := rfl
  rw [spells_iff, taken] at spelled
  cases spelled
  refine ⟨t, read, ?_⟩
  rw [written, weekday]
  rfl

end HttpDate

end EntityHeaders
