import EntityHeaders.Proofs.Faults
import EntityHeaders.Proofs.Soundness
import EntityHeaders.Proofs.Written

/-! # What may be written

A record that has been edited may hold anything in place of a length and a digest.  It is
looked at twice: when it is made, and again when it is written.  Both times a length must be
a number of octets within range, and what is no such length is refused in the same words.

* `exists_headersOf_iff` — fields are written exactly if each of them can be.
* `toHeaders_gate` — which records can be written, what is written of them, and what is
  reported of the others.
-/

namespace EntityHeaders

open Fallible (bind_eq_ok_iff mapError_eq_ok_iff mapM_eq_ok_iff)
open Text (decimal)

namespace Metadata

variable {profile : Profile} {record : Metadata}

/-! ## Records that can be written -/

theorem exists_headersOf_iff {fields : List Field} :
    (∃ headers, record.headersOf profile fields = .ok headers) ↔
      ∀ field ∈ fields, ∃ text, record.fieldText profile field = .ok text := by
  refine ⟨?_, exists_headersOf⟩
  rintro ⟨headers, written⟩
  induction fields generalizing headers with
  | nil => simp
  | cons field rest ih =>
    obtain ⟨text, later, first, others, -⟩ := headersOf_cons_eq_ok_iff.mp written
    intro other mem
    rcases List.mem_cons.mp mem with rfl | mem
    · exact ⟨text, first⟩
    · exact ih later others other mem

theorem exists_toHeaders_iff :
    (∃ headers, record.toHeaders profile = .ok headers) ↔
      record.Sized ∧ (∀ values, record.digest ≠ some (.numbers values)) ∧
        record.Datable profile := by
  rw [toHeaders, exists_headersOf_iff]
  constructor
  · intro each
    exact ⟨(exists_fieldText_length_iff profile).mp (each .length (Field.mem_all _)),
      (exists_fieldText_digest_iff profile).mp (each .digest (Field.mem_all _)),
      (exists_fieldText_expires_iff profile).mp (each .expires (Field.mem_all _))⟩
  · rintro ⟨sized, unlisted, datable⟩ field -
    exact exists_fieldText sized unlisted datable field

/-- A list of numbers is reported if the length is not. -/
theorem toHeaders_of_numbers {values : List Int} (sized : record.Sized)
    (held : record.digest = some (.numbers values)) :
    record.toHeaders profile = .error (.metadata (.digest .notOctets)) := by
  have split : Field.all = [.mediaType, .disposition, .coding, .language, .length] ++
      .digest :: [.expires] := rfl
  refine toHeaders_of_unwritten split ?_ (fieldText_of_numbers held)
  intro other mem
  cases other with
  | mediaType | disposition | coding | language => exact ⟨_, rfl⟩
  | length => exact (exists_fieldText_length_iff profile).mpr sized
  | digest | expires => simp at mem

theorem toHeaders_of_refused {length : Length} {fault : Length.Fault}
    (held : record.length = some length) (refused : length.check = .error fault) :
    record.toHeaders profile = .error (.metadata (.length fault)) := by
  have split : Field.all = [.mediaType, .disposition, .coding, .language] ++
      .length :: [.digest, .expires] := rfl
  refine toHeaders_of_unwritten split ?_ (fieldText_of_refused held refused)
  intro other mem
  cases other with
  | mediaType | disposition | coding | language => exact ⟨_, rfl⟩
  | length | digest | expires => simp at mem

/-! ## What is written -/

theorem isEmpty_iff_has : record.IsEmpty ↔ ∀ field, record.has field = false := by
  obtain ⟨mediaType, disposition, coding, language, length, digest, expires⟩ := record
  constructor
  · intro empty field
    cases empty
    cases field <;> rfl
  · intro absent
    have texts : mediaType.isSome = false ∧ disposition.isSome = false ∧ coding.isSome = false ∧
        language.isSome = false :=
      ⟨absent .mediaType, absent .disposition, absent .coding, absent .language⟩
    have others : length.isSome = false ∧ digest.isSome = false ∧ expires.isSome = false :=
      ⟨absent .length, absent .digest, absent .expires⟩
    simpa [IsEmpty, and_assoc] using And.intro texts others

theorem eq_nil_iff_isEmpty {headers : List Header}
    (written : record.toHeaders profile = .ok headers) : headers = [] ↔ record.IsEmpty := by
  have names := names_headersOf written
  rw [isEmpty_iff_has]
  constructor
  · rintro rfl field
    have none : Field.all.filter record.has = [] := by simpa using names.symm
    simpa using List.filter_eq_nil_iff.mp none field (Field.mem_all field)
  · intro absent
    have none : Field.all.filter record.has = [] := by simp [absent]
    simpa [none] using names

/-- A length that is written is read again as the same number. -/
theorem length_of_mem_toHeaders {headers : List Header} {header : Header}
    (written : record.toHeaders profile = .ok headers) (mem : header ∈ headers)
    (named : header.name = Field.length.name) :
    ∃ n : Nat, record.length = some (.whole n) ∧ header.value = String.ofList (decimal n) ∧
      readLength header.value = .ok n := by
  obtain ⟨field, -, value, text, rfl⟩ := mem_headersOf written mem
  cases Field.name_injective named
  rcases mapM_eq_ok_iff.mp text with ⟨-, absent⟩ | ⟨length, own, held, spelled, present⟩
  · cases absent
  · cases present
    obtain ⟨n, checked, made⟩ := bind_eq_ok_iff.mp spelled
    obtain ⟨rfl, fits⟩ := Length.check_eq_ok_iff.mp (mapError_eq_ok_iff.mp checked)
    cases made
    exact ⟨n, held, rfl, readLength_decimal fits⟩

/-- A record can be written exactly if its length is a number of octets within range, its
    digest no list of numbers, and its date one that the format has a text for.  It then has a
    header for each field that has a value, in the order of the fields.  Otherwise it is reported
    for its length, as it would be where it is made, or else for its digest, or else as the format
    breaks down.  Writing leaves it as it is. -/
theorem toHeaders_gate (profile : Profile) (record : Metadata) :
    ((∃ headers, record.toHeaders profile = .ok headers) ↔
      record.Sized ∧ (∀ values, record.digest ≠ some (.numbers values)) ∧
        record.Datable profile) ∧
    (∀ headers, record.toHeaders profile = .ok headers →
      headers.map Header.name = (Field.all.filter record.has).map Field.name ∧
      (headers.map Header.name).Nodup ∧ (headers = [] ↔ record.IsEmpty) ∧
      ∀ header ∈ headers, header.name = "Content-Length" →
        ∃ n : Nat, record.length = some (.whole n) ∧ header.value = String.ofList (decimal n) ∧
          readLength header.value = .ok n) ∧
    (¬ record.Sized → ∃ length fault, record.length = some length ∧
      record.toHeaders profile = .error (.metadata (.length fault)) ∧
      length.Refusal (Fault.metadata (.length fault)).message ∧
      ∀ fields : Metadata, fields.length = some length → fields.checked = .error (.length fault)) ∧
    (record.Sized → ∀ values, record.digest = some (.numbers values) →
      record.toHeaders profile = .error (.metadata (.digest .notOctets)) ∧
      (Fault.metadata (.digest .notOctets)).message =
        "a bytes-like object is required, not 'list'") ∧
    (record.Sized → (∀ values, record.digest ≠ some (.numbers values)) → ∀ t breakdown,
      record.expires = some t → profile.dates.write t = .error breakdown →
      record.toHeaders profile = .error (.breakdown breakdown)) ∧
    ∀ (session : Session) (register : String) (key : Nat), session.key? register = some key →
      session.records key = record → session.step profile (.encode register) =
        { answer := Reply.headers <$> record.toHeaders profile, notes := [], session } := by
  refine ⟨exists_toHeaders_iff, ?_, ?_, ?_, ?_, ?_⟩
  · intro headers written
    exact ⟨names_headersOf written, nodup_names_toHeaders written, eq_nil_iff_isEmpty written,
      fun header mem named => length_of_mem_toHeaders written mem named⟩
  · intro unsized
    obtain ⟨length, fault, held, refused⟩ := not_sized_iff.mp unsized
    exact ⟨length, fault, held, toHeaders_of_refused held refused,
      Length.check_eq_error refused, fun fields given => checked_of_refused given refused⟩
  · intro sized values held
    exact ⟨toHeaders_of_numbers sized held, rfl⟩
  · intro sized unlisted t breakdown held failed
    exact toHeaders_of_breakdown sized unlisted held failed
  · rintro session register key bound rfl
    exact Session.step_encode_of_bound bound

end Metadata

end EntityHeaders
