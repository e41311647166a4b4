import EntityHeaders.Header.Value
import EntityHeaders.Proofs.Fallible
import EntityHeaders.Proofs.Instant

/-! # Values that are read as they were written

The three written values each have a reader, and a reader undoes its writer:

* `readLength_decimal` — decimal digits, for every length that fits;
* `readDigest_encode` — Base64, for every run of octets;
* `parse_format` — the date of a timestamp, up to what a date cannot tell.

Of the reader of a length each exit has its lemma (`readLength_of_negative` and those that
follow it).  Within a fixed width the writer of numbers undoes the reader too
(`fixedWidth_value`).

None of the written values has a blank at its ends, so what the readers strip off is
nothing (`strip_eq_self`).
-/

namespace EntityHeaders

/-! ## Blanks -/

namespace Text

theorem strip_eq_self {text : List Char} (front : ∀ c ∈ text.head?, isBlank c = false)
    (back : ∀ c ∈ text.getLast?, isBlank c = false) : strip text = text := by
  have keeps : ∀ l : List Char, (∀ c ∈ l.head?, isBlank c = false) →
      l.dropWhile isBlank = l := by
    intro l head
    cases l with
    | nil => rfl
    | cons c rest => simp [head c rfl]
  rw [← List.head?_reverse] at back
  rw [strip, stripStart, keeps text front, stripEnd, keeps text.reverse back, List.reverse_reverse]

theorem strip_eq_self_of_forall {text : List Char} (inner : ∀ c ∈ text, isBlank c = false) :
    strip text = text :=
  strip_eq_self (fun c head => inner c (List.mem_of_head? head))
    (fun c last => inner c (List.mem_of_getLast? last))

theorem toNat_of_isDigit {c : Char} (digit : c.isDigit) : 48 ≤ c.toNat ∧ c.toNat ≤ 57 := by
  simpa [Char.isDigit, UInt32.le_iff_toNat_le] using digit

theorem toNat_of_isAlpha {c : Char} (alpha : c.isAlpha) :
    (65 ≤ c.toNat ∧ c.toNat ≤ 90) ∨ (97 ≤ c.toNat ∧ c.toNat ≤ 122) := by
  have bounds : (decide (c.val ≥ 'A'.val ∧ c.val ≤ 'Z'.val) ||
      (c.val ≥ 'a'.val && c.val ≤ 'z'.val)) = true := alpha
  simpa [UInt32.le_iff_toNat_le] using bounds

theorem not_isBlank_of_isDigit {c : Char} (digit : c.isDigit) : isBlank c = false := by
  have range := toNat_of_isDigit digit
  simp [isBlank, isBlankCode]
  omega

theorem not_isBlank_of_isAlpha {c : Char} (alpha : c.isAlpha) : isBlank c = false := by
  have range := toNat_of_isAlpha alpha
  simp [isBlank, isBlankCode]
  omega

/-! ## Digits -/

theorem digitChar_toNat {c : Char} (digit : c.isDigit) :
    Nat.digitChar (c.toNat - '0'.toNat) = c := by
  have digits : ∀ n : Fin 10, Nat.digitChar n.val = Char.ofNat (n.val + 48) := by decide
  obtain ⟨low, high⟩ := toNat_of_isDigit digit
  calc Nat.digitChar (c.toNat - '0'.toNat)
    _ = Char.ofNat (c.toNat - 48 + 48) := digits ⟨c.toNat - 48, by omega⟩
    _ = c := by rw [Nat.sub_add_cancel low, Char.ofNat_toNat]

/-- Digits are written again as they were read, in as many places. -/
theorem fixedWidth_value {width : Nat} {digits : List Char} (places : digits.length = width)
    (all : digits.all Char.isDigit) : fixedWidth 10 width (value digits) = digits := by
  induction width generalizing digits with
  | zero =>
    rw [List.eq_nil_of_length_eq_zero places]
    rfl
  | succ width ih =>
    have some_digit : digits ≠ [] := List.ne_nil_of_length_eq_add_one places
    obtain ⟨front, last, split⟩ : ∃ front last, digits = front ++ [last] :=
      ⟨_, _, (List.dropLast_concat_getLast some_digit).symm⟩
    subst split
    simp only [List.length_append, List.length_singleton, Nat.add_right_cancel_iff] at places
    simp only [List.all_append, List.all_cons, List.all_nil, Bool.and_true,
      Bool.and_eq_true] at all
    have range := toNat_of_isDigit all.2
    have zero : '0'.toNat = 48 := rfl
    -- the last digit is the remainder, and the quotient is what the others stand for
    have quotient : (value front * 10 + (last.toNat - '0'.toNat)) / 10 = value front := by omega
    have remainder : (value front * 10 + (last.toNat - '0'.toNat)) % 10 =
        last.toNat - '0'.toNat := by omega
    rw [value_append, fixedWidth, quotient, remainder, ih places all.1, digitChar_toNat all.2]

/-! ## Lengths -/

theorem isDigit_of_mem_decimal {n : Nat} {c : Char} (mem : c ∈ decimal n) : c.isDigit :=
  Nat.isDigit_of_mem_toDigits (by decide) (by decide) mem

theorem isNumeral_decimal (n : Nat) : isNumeral (decimal n) = true := by
  have written : decimal n ≠ [] := Nat.toDigits_ne_nil
  simp [isNumeral, written]
  exact fun c mem => isDigit_of_mem_decimal mem

theorem strip_decimal (n : Nat) : strip (decimal n) = decimal n :=
  strip_eq_self_of_forall fun _ mem => not_isBlank_of_isDigit (isDigit_of_mem_decimal mem)

end Text

open Text

theorem not_isNegativeNumeral_of_isNumeral {text : List Char} (numeral : isNumeral text) :
    isNegativeNumeral text = false := by
  unfold isNegativeNumeral
  split
  · exact absurd numeral (by simp [isNumeral])
  · rfl

theorem readLength_of_negative {text : String}
    (negative : isNegativeNumeral (strip text.toList) = true) :
    readLength text = .error (.malformed .length text .negativeLength) := by
  simp only [readLength, negative, if_true]

example : readLength " -0" = .error (.malformed .length " -0" .negativeLength) := rfl

theorem readLength_of_notWhole {text : String}
    (unsigned : isNegativeNumeral (strip text.toList) = false)
    (unspelled : isNumeral (strip text.toList) = false) :
    readLength text = .error (.malformed .length text .notWhole) := by
  simp [readLength, unsigned, unspelled]

section Numeral

variable {text : String} (numeral : isNumeral (strip text.toList) = true)

include numeral

theorem readLength_of_long (long : digitLimit < (strip text.toList).length) :
    readLength text = .error (.longNumeral (strip text.toList).length) := by
  simp [readLength, not_isNegativeNumeral_of_isNumeral numeral, numeral, long]

theorem readLength_of_tooGreat (short : (strip text.toList).length ≤ digitLimit)
    (great : maxLength < value (strip text.toList)) :
    readLength text = .error (.malformed .length text .tooGreat) := by
  simp [readLength, not_isNegativeNumeral_of_isNumeral numeral, numeral, Nat.not_lt.mpr short,
    great]

theorem readLength_of_fits (short : (strip text.toList).length ≤ digitLimit)
    (fits : value (strip text.toList) ≤ maxLength) :
    readLength text = .ok (value (strip text.toList)) := by
  simp [readLength, not_isNegativeNumeral_of_isNumeral numeral, numeral, Nat.not_lt.mpr short,
    Nat.not_lt.mpr fits]

end Numeral

theorem readLength_decimal {n : Nat} (fits : n ≤ maxLength) :
    readLength (String.ofList (decimal n)) = .ok n := by
  have bare : strip (String.ofList (decimal n)).toList = decimal n := by
    rw [String.toList_ofList, strip_decimal]
  have numeral := isNumeral_decimal n
  -- nineteen digits are far from the limit, so the numeral is read and not given up on
  have short : (decimal n).length ≤ 19 := by
    apply (Nat.length_toDigits_le_iff (by decide) (by decide)).mpr
    unfold maxLength at fits
    omega
  have below : (decimal n).length ≤ digitLimit := Nat.le_trans short (by decide)
  rw [← value_decimal n] at fits
  rw [← bare] at numeral below fits
  rw [readLength_of_fits numeral below fits, bare, value_decimal]

/-! ## Digests -/

theorem not_isBlank_digit {n : Nat} (small : n < 64) : isBlank (Base64.digit n) = false := by
  revert n
  decide

theorem strip_encode (data : List UInt8) : strip (Base64.encode data) = Base64.encode data := by
  apply strip_eq_self_of_forall
  intro c mem
  simp only [Base64.encode, List.mem_append, List.mem_map, List.mem_replicate] at mem
  rcases mem with ⟨n, sextet, rfl⟩ | ⟨_, rfl⟩
  · exact not_isBlank_digit (Base64.lt_of_mem_sextets sextet)
  · decide

theorem readDigest_encode (data : List UInt8) :
    readDigest (String.ofList (Base64.encode data)) = .ok data := by
  simp [readDigest, strip_encode, Base64.decode?_encode]

/-! ## Dates -/

namespace HttpDate

open Calendar (Date TimeOfDay Timestamp)
open Fallible (bind_eq_ok_iff mapError_eq_ok_iff)

theorem weekdayName_wellFormed {w : Nat} (inside : w < 7) :
    (weekdayName w).length = 3 ∧ (weekdayName w).all Char.isAlpha := by
  revert w
  decide

theorem monthName_wellFormed {m : Nat} (inside : m < 12) :
    (monthName m).length = 3 ∧ (monthName m).all Char.isAlpha := by
  revert m
  decide

theorem isWeekday_weekdayName {w : Nat} (inside : w < 7) :
    isWeekday (titleCase (weekdayName w)) = true := by
  revert w
  decide

theorem month?_monthName {m : Nat} (inside : m < 12) :
    month? (titleCase (monthName m)) = some ⟨m, inside⟩ := by
  revert m
  decide

theorem strip_text {parts : Parts} (formed : parts.WellFormed) : strip parts.text = parts.text := by
  obtain ⟨length, letters⟩ := formed.weekday
  apply strip_eq_self
  · intro c head
    -- the text starts with the first letter of the weekday
    match weekday : parts.weekday with
    | [] => simp [weekday] at length
    | first :: rest =>
      simp [Parts.text, weekday] at head
      simp [weekday] at letters
      exact head ▸ not_isBlank_of_isAlpha letters.1
  · intro c last
    simp only [Parts.text, List.getLast?_append] at last
    obtain rfl : 'T' = c := by simpa using last
    decide

theorem month_index_lt (date : Date) : date.month - 1 < 12 := by
  have := date.month_pos
  have := date.month_le
  omega

theorem wellFormed_ofDateTime (date : Date) (time : TimeOfDay) :
    (Parts.ofDateTime date time).WellFormed where
  weekday := weekdayName_wellFormed (Nat.mod_lt _ (by decide))
  day := ⟨length_fixedWidth 10 2 _, all_isDigit_fixedWidth 2 _⟩
  month := monthName_wellFormed (month_index_lt date)
  year := ⟨length_fixedWidth 10 4 _, all_isDigit_fixedWidth 4 _⟩
  hour := ⟨length_fixedWidth 10 2 _, all_isDigit_fixedWidth 2 _⟩
  minute := ⟨length_fixedWidth 10 2 _, all_isDigit_fixedWidth 2 _⟩
  second := ⟨length_fixedWidth 10 2 _, all_isDigit_fixedWidth 2 _⟩

theorem value_two {n : Nat} (small : n < 100) : value (fixedWidth 10 2 n) = n := by
  rw [value_fixedWidth]
  exact Nat.mod_eq_of_lt small

theorem value_four {n : Nat} (small : n < 10000) : value (fixedWidth 10 4 n) = n := by
  rw [value_fixedWidth]
  exact Nat.mod_eq_of_lt small

theorem ofCivil_date (date : Date) :
    Date.ofCivil date.year ⟨date.month - 1, month_index_lt date⟩ date.day = .ok date := by
  obtain ⟨year, month, day, year_pos, year_le, month_pos, month_le, day_pos, day_le⟩ := date
  have month_eq : month - 1 + 1 = month := Nat.sub_add_cancel month_pos
  unfold Date.ofCivil
  rw [dif_pos ⟨year_pos, year_le⟩, dif_pos ⟨day_pos, by simpa only [month_eq] using day_le⟩]
  simp only [month_eq]

theorem ofCivil_time (time : TimeOfDay) :
    TimeOfDay.ofCivil time.hour time.minute time.second = .ok time.toSecond := by
  simp [TimeOfDay.ofCivil, time.hour_lt, time.minute_lt, time.second_lt, TimeOfDay.toSecond,
    TimeOfDay.midnight]

theorem day_lt (date : Date) : date.day < 100 := by
  have fits := date.day_le
  unfold Calendar.daysInMonth at fits
  split at fits <;> split at fits <;> omega

theorem parse_eq_ok_iff {text : List Char} {t : Timestamp} :
    parse text = .ok t ↔
      ∃ parts month, Parts.read? (strip text) = some parts ∧
        isWeekday (titleCase parts.weekday) = true ∧
        month? (titleCase parts.month) = some month ∧
        Date.ofCivil (value parts.year) month (value parts.day) = .ok t.date ∧
        TimeOfDay.ofCivil (value parts.hour) (value parts.minute) (value parts.second) =
          .ok t.time ∧
        t.zone = some .utc := by
  -- one case for each thing that is looked at, in the order of the reader
  unfold parse
  cases taken : Parts.read? (strip text) with
  | none => simp
  | some parts =>
    cases weekday : isWeekday (titleCase parts.weekday) with
    | false => simp [weekday]
    | true =>
      cases named : month? (titleCase parts.month) with
      | none => simp [weekday, named]
      | some month =>
        obtain ⟨date, time, zone⟩ := t
        simp only [weekday, named, Bool.not_true, Bool.false_eq_true, if_false, bind_eq_ok_iff,
          mapError_eq_ok_iff, Option.some.injEq]
        constructor
        · rintro ⟨date', dated, time', timed, made⟩
          cases made
          exact ⟨parts, month, rfl, weekday, named, dated, timed, rfl⟩
        · rintro ⟨_, _, rfl, -, same, dated, timed, rfl⟩
          cases named.symm.trans same
          exact ⟨date, dated, time, timed, rfl⟩

theorem parse_format (t : Timestamp) : parse (format t) = .ok t.toSecond := by
  -- the written parts are the ones found again, and each of them is read as it was written
  have formed := wellFormed_ofDateTime t.toUtc.date t.toUtc.time
  have hour := t.toUtc.time.hour_lt
  have minute := t.toUtc.time.minute_lt
  have second := t.toUtc.time.second_lt
  have year := t.toUtc.date.year_le
  apply parse_eq_ok_iff.mpr
  refine ⟨Parts.ofDateTime t.toUtc.date t.toUtc.time, ⟨_, month_index_lt t.toUtc.date⟩,
    ?_, ?_, ?_, ?_, ?_, rfl⟩
  · exact Parts.read?_eq_some_iff.mpr ⟨strip_text formed, formed⟩
  · exact isWeekday_weekdayName (Nat.mod_lt _ (by decide))
  · exact month?_monthName (month_index_lt _)
  · simp only [Parts.ofDateTime]
    rw [value_four (by omega), value_two (day_lt _), ofCivil_date, Timestamp.toUtc_eq_ofInstant]
    rfl
  · simp only [Parts.ofDateTime]
    rw [value_two (by omega), value_two (by omega), value_two (by omega), ofCivil_time,
      Timestamp.toUtc_eq_ofInstant]
    rfl

end HttpDate

end EntityHeaders
