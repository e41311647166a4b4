import EntityHeaders.Proofs.Reading
import EntityHeaders.Proofs.Values

/-! # What a failed decoding reports

While dates are those of HTTP, only a length or a digest ends a decoding.  Its fault then
reports the header: it names the field and gives the value as it stands.  There is one
exception, a declared length of more digits than are converted to a number (`Overlong`):
that is given up on before it is compared with the greatest length, and the fault tells
only how many digits there were.

* `readLength_eq_error`, `readDigest_eq_error` — the faults of the two readers.
* `exists_unreadable_of_fault` — the fault of a run is that of its first unreadable header.
* `decode_fault_reports_iff` — a fault reports its header unless that is overlong.
-/

namespace EntityHeaders

open Text (digitLimit isNumeral strip value)

/-! ## Numerals -/

theorem Text.value_le_append (left right : List Char) : value left ≤ value (left ++ right) := by
  induction right generalizing left with
  | nil => simp
  | cons c rest ih =>
    have first := value_append left c
    have further := ih (left ++ [c])
    rw [List.append_cons]
    omega

/-! ## Faults of the readers -/

theorem readLength_eq_error {text : String} {fault : Fault}
    (failed : readLength text = .error fault) :
    (∃ malformation, fault = .malformed .length text malformation) ∨
      isNumeral (strip text.toList) = true ∧ digitLimit < (strip text.toList).length := by
  simp only [readLength] at failed
  split at failed
  · exact .inl ⟨_, (Except.error.inj failed).symm⟩
  · split at failed
    · exact .inl ⟨_, (Except.error.inj failed).symm⟩
    next numeral =>
      split at failed
      next long => exact .inr ⟨by simpa using numeral, long⟩
      · split at failed
        · exact .inl ⟨_, (Except.error.inj failed).symm⟩
        · cases failed

theorem readDigest_eq_error {text : String} {fault : Fault}
    (failed : readDigest text = .error fault) : fault = .malformed .digest text .notBase64 := by
  unfold readDigest at failed
  split at failed
  · cases failed
  · exact (Except.error.inj failed).symm

/-! ## Headers and what is reported of them -/

/-- The fault names the field of the header and gives its value as it stands. -/
def Fault.Reports (fault : Fault) (header : Header) : Prop :=
  ∃ field malformation, (field = .length ∨ field = .digest) ∧
    sameName header.name field.name = true ∧ fault = .malformed field header.value malformation

/-- The fault is about a header of this name, with this value and for this reason. -/
def Fault.IsAbout (fault : Fault) (header value reason : String) : Prop :=
  ∃ field malformation, fault = .malformed field value malformation ∧ field.name = header ∧
    malformation.message = reason

theorem Field.name_injective {a b : Field} (same : a.name = b.name) : a = b := by
  have found := ofName?_name a
  rw [same, ofName?_name b] at found
  exact (Option.some.inj found).symm

theorem Malformation.message_injective {a b : Malformation} (same : a.message = b.message) :
    a = b := by
  cases a <;> cases b <;> first | rfl | exact absurd same (by decide)

theorem Fault.isAbout_iff {fault : Fault} (field : Field) (value : String)
    (malformation : Malformation) :
    fault.IsAbout field.name value malformation.message ↔
      fault = .malformed field value malformation := by
  refine ⟨?_, fun same => ⟨field, malformation, same, rfl, rfl⟩⟩
  rintro ⟨_, _, rfl, header, reason⟩
  rw [Field.name_injective header, Malformation.message_injective reason]

namespace Header

/-- A length in decimal digits, however many they are and whatever their number is. -/
def DeclaresDigits (header : Header) : Prop :=
  sameName header.name Field.length.name = true ∧ isNumeral (strip header.value.toList) = true

/-- A length of more digits than are converted to a number. -/
def Overlong (header : Header) : Prop :=
  header.DeclaresDigits ∧ digitLimit < (strip header.value.toList).length

/-- Under HTTP dates, what cannot be read is a length that counts or a digest. -/
theorem Unreadable.length_or_digest {profile : Profile} (http : profile.dates = .http)
    {chunked : Bool} {header : Header} {fault : Fault}
    (unreadable : header.Unreadable profile chunked fault) :
    (sameName header.name Field.length.name = true ∧ readLength header.value = .error fault) ∨
      sameName header.name Field.digest.name = true ∧ readDigest header.value = .error fault := by
  cases unreadable with
  | length same whole failed => exact .inl ⟨same, failed⟩
  | digest same failed => exact .inr ⟨same, failed⟩
  | expires same failed escapes =>
    rw [http] at failed
    obtain ⟨reason, rfl⟩ := http_rejects failed
    cases escapes

theorem Unreadable.reports_or_overlong {profile : Profile} (http : profile.dates = .http)
    {chunked : Bool} {header : Header} {fault : Fault}
    (unreadable : header.Unreadable profile chunked fault) :
    fault.Reports header ∨ header.Overlong := by
  rcases unreadable.length_or_digest http with ⟨same, failed⟩ | ⟨same, failed⟩
  · rcases readLength_eq_error failed with ⟨malformation, rfl⟩ | ⟨numeral, long⟩
    · exact .inl ⟨.length, malformation, .inl rfl, same, rfl⟩
    · exact .inr ⟨⟨same, numeral⟩, long⟩
  · cases readDigest_eq_error failed
    exact .inl ⟨.digest, .notBase64, .inr rfl, same, rfl⟩

/-- A header of the length is no digest, so its fault is that of the length. -/
theorem Unreadable.readLength_eq {profile : Profile} (http : profile.dates = .http)
    {chunked : Bool} {header : Header} {fault : Fault}
    (unreadable : header.Unreadable profile chunked fault)
    (same : sameName header.name Field.length.name = true) :
    readLength header.value = .error fault := by
  rcases unreadable.length_or_digest http with ⟨-, failed⟩ | ⟨other, -⟩
  · exact failed
  · rw [← Field.ofName?_eq_some_iff] at same other
    cases same.symm.trans other

theorem Unreadable.fault_of_overlong {profile : Profile} (http : profile.dates = .http)
    {chunked : Bool} {header : Header} {fault : Fault}
    (unreadable : header.Unreadable profile chunked fault) (overlong : header.Overlong) :
    fault = .longNumeral (strip header.value.toList).length := by
  obtain ⟨⟨same, numeral⟩, long⟩ := overlong
  have failed := unreadable.readLength_eq http same
  rw [readLength_of_long numeral long] at failed
  exact (Except.error.inj failed).symm

end Header

namespace Metadata

theorem exists_unreadable_of_fault {profile : Profile} {chunked : Bool} {headers : List Header}
    {record : Metadata} {fault : Fault}
    (failed : (record.applyAll profile chunked headers).fault = some fault) :
    ∃ before bad after, headers = before ++ bad :: after ∧
      (∀ header ∈ before, header.Readable profile chunked) ∧
      bad.Unreadable profile chunked fault := by
  obtain ⟨applied, run, -⟩ := exists_applied profile chunked headers record
  rw [failed] at run
  cases run with
  | before clean unreadable => exact ⟨_, _, _, rfl, clean, unreadable⟩

/-- A decoding by the default profile fails at its first unreadable header, and the fault
    reports this header if and only if it is not overlong.  So a length in digits that is
    out of range is reported as too great when it has few enough digits to be converted,
    and otherwise only the number of its digits is. -/
theorem decode_fault_reports_iff {headers : List Header} {target : Metadata} {fault : Fault}
    (failed : (target.decode {} (.ofHeaders headers)).fault = some fault) :
    ∃ before bad after, headers = before ++ bad :: after ∧
      (∀ header ∈ before, header.Readable {} (isChunked headers)) ∧
      bad.Unreadable {} (isChunked headers) fault ∧
      (fault.Reports bad ↔ ¬ bad.Overlong) ∧
      (bad.Overlong → fault = .longNumeral (strip bad.value.toList).length) ∧
      (bad.DeclaresDigits → ¬ bad.Overlong → maxLength < value (strip bad.value.toList) →
        fault = .malformed .length bad.value .tooGreat) := by
  rw [decode_ofHeaders] at failed
  obtain ⟨before, bad, after, split, clean, unreadable⟩ := exists_unreadable_of_fault failed
  have http : ({} : Profile).dates = .http := rfl
  have given := unreadable.fault_of_overlong http
  refine ⟨before, bad, after, split, clean, unreadable, ⟨?_, ?_⟩, given, ?_⟩
  · rintro ⟨field, malformation, -, -, named⟩ overlong
    rw [given overlong] at named
    cases named
  · intro short
    exact (unreadable.reports_or_overlong http).resolve_right short
  · rintro ⟨same, numeral⟩ short great
    have few : (strip bad.value.toList).length ≤ digitLimit :=
      Nat.not_lt.mp fun long => short ⟨⟨same, numeral⟩, long⟩
    have read := unreadable.readLength_eq http same
    rw [readLength_of_tooGreat numeral few great] at read
    exact (Except.error.inj read).symm

/-- A list of one length that cannot be read leaves the record alone. -/
theorem decode_of_length {header : Header} {fault : Fault} (target : Metadata)
    (named : Field.ofName? header.name = some .length)
    (failed : readLength header.value = .error fault) :
    target.decode {} (.ofHeaders [header]) =
      { record := target, notes := [], fault := some fault } := by
  have whole : isChunked [header] = false := by
    apply not_isChunked_of_fields
    simp [named]
  simp [applyHeaders, applyAll, Header.effect, Field.effect, whole, named, failed]

/-- A negative length. -/
def negativeHeader : Header :=
  { name := "content-LENGTH", value := " -1 " }

/-- The fault of a negative length reports its header, blanks included. -/
theorem decode_fault_reports_iff_negative :
    (decode {} (.ofHeaders [negativeHeader]) {}).fault =
      some (.malformed .length " -1 " .negativeLength) ∧
    (Fault.malformed .length " -1 " .negativeLength).Reports negativeHeader := by
  have named : Field.ofName? negativeHeader.name = some .length :=
    Field.ofName?_of_ascii (by decide) (by decide)
  have negative : readLength negativeHeader.value =
      .error (.malformed .length " -1 " .negativeLength) := by
    rfl
  have failed := congrArg Outcome.fault (decode_of_length {} named negative)
  refine ⟨failed, ?_⟩
  obtain ⟨before, bad, after, split, -, -, reports, given, -⟩ := decode_fault_reports_iff failed
  obtain ⟨rfl, rfl, rfl⟩ : before = [] ∧ bad = negativeHeader ∧ after = [] := by
    cases before with
    | nil => simpa [eq_comm] using split
    | cons first rest => simp at split
  refine reports.mpr fun overlong => ?_
  exact Fault.noConfusion (given overlong)

/-- A length that is written as so many digits one. -/
def onesHeader (count : Nat) : Header :=
  { name := "Content-Length", value := String.ofList (List.replicate count '1') }

theorem ofName?_onesHeader (count : Nat) :
    Field.ofName? (onesHeader count).name = some .length :=
  Field.ofName?_name .length

theorem strip_onesHeader (count : Nat) :
    strip (onesHeader count).value.toList = List.replicate count '1' := by
  rw [onesHeader, String.toList_ofList]
  apply Text.strip_eq_self_of_forall
  intro c mem
  rw [(List.mem_replicate.mp mem).2]
  decide

theorem declaresDigits_onesHeader {count : Nat} (some : 0 < count) :
    (onesHeader count).DeclaresDigits := by
  refine ⟨Field.ofName?_eq_some_iff.mp (ofName?_onesHeader count), ?_⟩
  rw [strip_onesHeader, isNumeral, List.isEmpty_replicate, List.all_replicate]
  simp [Nat.ne_of_gt some]

/-- The fault of an overlong length reports no header at all, although the length is in
    digits and far beyond the greatest. -/
theorem decode_overlong_unreported :
    (decode {} (.ofHeaders [onesHeader 4301]) {}).fault = some (.longNumeral 4301) ∧
    (onesHeader 4301).DeclaresDigits ∧
      maxLength < value (strip (onesHeader 4301).value.toList) ∧
      ∀ header, ¬ (Fault.longNumeral 4301).Reports header := by
  have digits : (onesHeader 4301).DeclaresDigits := declaresDigits_onesHeader (by decide)
  have failed : readLength (onesHeader 4301).value = .error (.longNumeral 4301) := by
    have long : digitLimit < (strip (onesHeader 4301).value.toList).length := by
      rw [strip_onesHeader, List.length_replicate]
      decide
    rw [readLength_of_long digits.2 long, strip_onesHeader, List.length_replicate]
  refine ⟨?_, digits, ?_, ?_⟩
  · exact congrArg Outcome.fault (decode_of_length {} (ofName?_onesHeader 4301) failed)
  · -- twenty of the digits already exceed the greatest length
    rw [strip_onesHeader, show 4301 = 20 + 4281 from rfl, ← List.replicate_append_replicate]
    exact Nat.lt_of_lt_of_le (by decide) (Text.value_le_append _ _)
  · rintro header ⟨field, malformation, -, -, named⟩
    cases named

end Metadata

end EntityHeaders
