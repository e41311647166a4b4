import EntityHeaders.Proofs.Base64Forms
import EntityHeaders.Proofs.Faults
import EntityHeaders.Proofs.Validity

/-! # What header values mean

The values of `Content-Length` and `Content-MD5` are languages of their own, between blanks.

* `Numeral` — one or more decimal digits; `placeValue` is the number that they write.
* `LengthReading`, `readLength_eq_iff` — the five things that can become of a length.
* `DigestReading`, `readDigest_eq_iff` — a digest is one of the forms of Base64, and is written
  again in its canonical form.

Both relations are shown in the same way: each of their cases says what the reader gives
(`LengthReading.readLength_eq`, `DigestReading.readDigest_eq`), and one of them always applies.
-/

namespace EntityHeaders

open Text (digitChar_toNat isNumeral strip value)

/-! ## Numerals -/

/-- The number that decimal digits write, each counting by its place. -/
def placeValue : List (Fin 10) → Nat
  | [] => 0
  | digit :: rest => digit.val * Nat.pow 10 rest.length + placeValue rest

/-- One or more decimal digits, with zeros in front or without. -/
structure Numeral where
  digits : List (Fin 10)
  some_digit : digits ≠ []

def spellDigits (digits : List (Fin 10)) : List Char :=
  digits.map fun digit => Nat.digitChar digit.val

namespace Numeral

def text (numeral : Numeral) : List Char :=
  spellDigits numeral.digits

def number (numeral : Numeral) : Nat :=
  placeValue numeral.digits

theorem length_text (numeral : Numeral) : numeral.text.length = numeral.digits.length := by
  rw [text, spellDigits, List.length_map]

end Numeral

theorem ofDigitChars_spellDigits (digits : List (Fin 10)) (before : Nat) :
    Nat.ofDigitChars 10 (spellDigits digits) before =
      before * Nat.pow 10 digits.length + placeValue digits := by
  induction digits generalizing before with
  | nil => simp [spellDigits, placeValue]
  | cons digit rest ih =>
    have place : Nat.pow 10 (rest.length + 1) = Nat.pow 10 rest.length * 10 := rfl
    rw [spellDigits, List.map_cons, Nat.ofDigitChars_cons, ← spellDigits, ih,
      Text.toNat_digitChar digit.isLt, placeValue, List.length_cons, place, Nat.add_mul]
    rw [Nat.mul_comm 10 before, Nat.mul_assoc, Nat.mul_comm 10, Nat.add_assoc]

theorem Numeral.value_text (numeral : Numeral) : value numeral.text = numeral.number := by
  rw [value, text, ofDigitChars_spellDigits, Nat.zero_mul, Nat.zero_add, number]

theorem exists_spellDigits {text : List Char} (digits : ∀ c ∈ text, c.isDigit = true) :
    ∃ numbers : List (Fin 10), text = spellDigits numbers := by
  induction text with
  | nil => exact ⟨[], rfl⟩
  | cons c rest ih =>
    have digit := digits c List.mem_cons_self
    have range := Text.toNat_of_isDigit digit
    have zero : '0'.toNat = 48 := rfl
    obtain ⟨numbers, others⟩ := ih fun d mem => digits d (List.mem_cons_of_mem c mem)
    refine ⟨⟨c.toNat - '0'.toNat, by omega⟩ :: numbers, ?_⟩
    rw [spellDigits, List.map_cons, digitChar_toNat digit, ← spellDigits, ← others]

theorem isNumeral_iff {text : List Char} :
    isNumeral text = true ↔ ∃ numeral : Numeral, text = numeral.text := by
  refine ⟨?_, ?_⟩
  · intro written
    simp only [isNumeral, Bool.and_eq_true, Bool.not_eq_true', List.isEmpty_eq_false_iff,
      List.all_eq_true] at written
    obtain ⟨numbers, spelled⟩ := exists_spellDigits written.2
    refine ⟨⟨numbers, ?_⟩, spelled⟩
    rintro rfl
    exact written.1 spelled
  · rintro ⟨numeral, rfl⟩
    have written : numeral.text ≠ [] := by
      simpa [Numeral.text, spellDigits] using numeral.some_digit
    simp only [isNumeral, Bool.and_eq_true, Bool.not_eq_true', List.isEmpty_eq_false_iff]
    refine ⟨written, ?_⟩
    simp [Numeral.text, spellDigits]

theorem isNegativeNumeral_iff {text : List Char} :
    isNegativeNumeral text = true ↔ ∃ numeral : Numeral, text = '-' :: numeral.text := by
  unfold isNegativeNumeral
  split
  next digits => simp [isNumeral_iff]
  next unsigned =>
    simp only [Bool.false_eq_true, false_iff, not_exists]
    rintro numeral rfl
    exact unsigned numeral.text rfl

/-! ## Lengths -/

/-- What becomes of the value of a length.  Of a numeral its length is looked at before its
    number, zeros in front included. -/
inductive LengthReading (text : String) : Except Fault Nat → Prop
  | negative {fault : Fault} (numeral : Numeral)
      (spelled : strip text.toList = '-' :: numeral.text)
      (about : fault.IsAbout "Content-Length" text "negative length") :
      LengthReading text (.error fault)
  | notWhole {fault : Fault}
      (unsigned : ∀ numeral : Numeral, strip text.toList ≠ '-' :: numeral.text)
      (unspelled : ∀ numeral : Numeral, strip text.toList ≠ numeral.text)
      (about : fault.IsAbout "Content-Length" text "not an integer") :
      LengthReading text (.error fault)
  | long (numeral : Numeral) (spelled : strip text.toList = numeral.text)
      (long : 4300 < numeral.digits.length) :
      LengthReading text (.error (.longNumeral numeral.digits.length))
  | tooGreat {fault : Fault} (numeral : Numeral) (spelled : strip text.toList = numeral.text)
      (short : numeral.digits.length ≤ 4300) (great : Nat.pow 2 63 - 1 < numeral.number)
      (about : fault.IsAbout "Content-Length" text "exceeds 64 bits") :
      LengthReading text (.error fault)
  | fits (numeral : Numeral) (spelled : strip text.toList = numeral.text)
      (short : numeral.digits.length ≤ 4300) (fits : numeral.number ≤ Nat.pow 2 63 - 1) :
      LengthReading text (.ok numeral.number)

/-- Each case says what the reader gives. -/
theorem LengthReading.readLength_eq {text : String} {outcome : Except Fault Nat}
    (reading : LengthReading text outcome) : readLength text = outcome := by
  cases reading with
  | negative numeral spelled about =>
    rw [(Fault.isAbout_iff .length text .negativeLength).mp about]
    exact readLength_of_negative (isNegativeNumeral_iff.mpr ⟨numeral, spelled⟩)
  | notWhole unsigned unspelled about =>
    rw [(Fault.isAbout_iff .length text .notWhole).mp about]
    apply readLength_of_notWhole
    · rw [Bool.eq_false_iff, ne_eq, isNegativeNumeral_iff, not_exists]
      exact unsigned
    · rw [Bool.eq_false_iff, ne_eq, isNumeral_iff, not_exists]
      exact unspelled
  | long numeral spelled long =>
    rw [← numeral.length_text, ← spelled] at long ⊢
    exact readLength_of_long (isNumeral_iff.mpr ⟨numeral, spelled⟩) long
  | tooGreat numeral spelled short great about =>
    rw [(Fault.isAbout_iff .length text .tooGreat).mp about]
    rw [← numeral.length_text, ← spelled] at short
    rw [← numeral.value_text, ← spelled] at great
    exact readLength_of_tooGreat (isNumeral_iff.mpr ⟨numeral, spelled⟩) short great
  | fits numeral spelled short fits =>
    rw [← numeral.length_text, ← spelled] at short
    rw [← numeral.value_text, ← spelled] at fits ⊢
    exact readLength_of_fits (isNumeral_iff.mpr ⟨numeral, spelled⟩) short fits

theorem exists_lengthReading (text : String) : ∃ outcome, LengthReading text outcome := by
  by_cases negative : ∃ numeral : Numeral, strip text.toList = '-' :: numeral.text
  · obtain ⟨numeral, spelled⟩ := negative
    exact ⟨_, .negative numeral spelled ((Fault.isAbout_iff .length text .negativeLength).mpr rfl)⟩
  by_cases written : ∃ numeral : Numeral, strip text.toList = numeral.text
  · obtain ⟨numeral, spelled⟩ := written
    rcases Nat.lt_or_ge 4300 numeral.digits.length with long | short
    · exact ⟨_, .long numeral spelled long⟩
    rcases Nat.lt_or_ge (Nat.pow 2 63 - 1) numeral.number with great | fits
    · exact ⟨_, .tooGreat numeral spelled short great
        ((Fault.isAbout_iff .length text .tooGreat).mpr rfl)⟩
    · exact ⟨_, .fits numeral spelled short fits⟩
  · exact ⟨_, .notWhole (not_exists.mp negative) (not_exists.mp written)
      ((Fault.isAbout_iff .length text .notWhole).mpr rfl)⟩

/-- The value of a length becomes what one of the five cases says, and nothing else. -/
theorem readLength_eq_iff (text : String) (outcome : Except Fault Nat) :
    readLength text = outcome ↔ LengthReading text outcome := by
  refine ⟨?_, LengthReading.readLength_eq⟩
  intro read
  obtain ⟨other, reading⟩ := exists_lengthReading text
  rwa [← read, reading.readLength_eq]

/-! ## Digests -/

/-- What becomes of the value of a digest. -/
inductive DigestReading (text : String) : Except Fault (List UInt8) → Prop
  | octets (form : Base64.Form) (spelled : strip text.toList = form.text) :
      DigestReading text (.ok form.data)
  | notBase64 {fault : Fault} (unspelled : ∀ form : Base64.Form, strip text.toList ≠ form.text)
      (about : fault.IsAbout "Content-MD5" text "invalid base64") :
      DigestReading text (.error fault)

theorem DigestReading.readDigest_eq {text : String} {outcome : Except Fault (List UInt8)}
    (reading : DigestReading text outcome) : readDigest text = outcome := by
  cases reading with
  | octets form spelled =>
    rw [readDigest, spelled, Base64.decode?_text]
  | notBase64 unspelled about =>
    rw [(Fault.isAbout_iff .digest text .notBase64).mp about]
    have unread : Base64.decode? (strip text.toList) = none := by
      apply Option.eq_none_iff_forall_ne_some.mpr
      intro data read
      obtain ⟨form, spelled, -⟩ := Base64.decode?_eq_some_iff.mp read
      exact unspelled form spelled
    rw [readDigest, unread]

theorem exists_digestReading (text : String) : ∃ outcome, DigestReading text outcome := by
  by_cases written : ∃ form : Base64.Form, strip text.toList = form.text
  · obtain ⟨form, spelled⟩ := written
    exact ⟨_, .octets form spelled⟩
  · exact ⟨_, .notBase64 (not_exists.mp written)
      ((Fault.isAbout_iff .digest text .notBase64).mpr rfl)⟩

/-- The value of a digest is read as the octets of its form, if it has a form of Base64, and
    refused otherwise, as is any character beyond ASCII that is no blank at an end.  The octets are
    written again in the canonical form, which is the same text if the ending is canonical. -/
theorem readDigest_eq_iff (text : String) (outcome : Except Fault (List UInt8)) :
    (readDigest text = outcome ↔ DigestReading text outcome) ∧
    ((strip text.toList).all (·.toNat < 128) = true ∨
      ∃ fault, readDigest text = .error fault ∧
        fault.IsAbout "Content-MD5" text "invalid base64") ∧
    ∀ form : Base64.Form,
      Metadata.digestText (.ofOctets form.data) = .ok (String.ofList form.canonical.text) ∧
      (Metadata.digestText (.ofOctets form.data) = .ok (String.ofList form.text) ↔
        form.ending.IsCanonical) := by
  have again : ∀ form : Base64.Form, Metadata.digestText (.ofOctets form.data) =
      .ok (String.ofList form.canonical.text) := by
    intro form
    rw [Metadata.digestText_ofOctets, Base64.encode_data]
  obtain ⟨result, reading⟩ := exists_digestReading text
  have read := reading.readDigest_eq
  refine ⟨⟨?_, DigestReading.readDigest_eq⟩, ?_, fun form => ⟨again form, ?_⟩⟩
  · intro same
    rwa [← same, read]
  · cases reading with
    | octets other spelled =>
      rw [spelled]
      exact .inl (Base64.padded_ascii _ _)
    | notBase64 unspelled about => exact .inr ⟨_, read, about⟩
  · rw [again, Except.ok.injEq, String.ofList_inj, Base64.canonical_text_eq_iff]

end EntityHeaders
